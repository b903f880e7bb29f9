import TableSchema.Proofs.Table.CellRules
import TableSchema.Proofs.Table.Grammar
import TableSchema.Proofs.Text.Integers

/-!
# Tokens decoded as integers

Which texts a reading decodes as integers: it goes on to the first value that is invalid and to the
first line that is at fault. If the blanks before all of them are ASCII characters, the rules of
both languages decode a line to the same row.
-/

namespace TableSchema

/-! ## Items up to a failure -/

section Attempted

variable {α β ε : Type} {f : α → Option β} {items : List α}

/-- The items up to the first one that gives nothing, which is among them. -/
def attempted (f : α → Option β) : List α → List α
  | [] => []
  | item :: rest => item :: if (f item).isSome then attempted f rest else []

theorem attempted_eq_self (h : ∀ item ∈ items, (f item).isSome) : attempted f items = items := by
  induction items with
  | nil => rfl
  | cons item rest ih =>
      rw [List.forall_mem_cons] at h
      rw [attempted, if_pos h.1, ih h.2]

theorem mapM_congr_attempted {g : α → Option β} (h : ∀ item ∈ attempted f items, f item = g item) :
    items.mapM f = items.mapM g := by
  induction items with
  | nil => rfl
  | cons item rest ih =>
      rw [attempted, List.forall_mem_cons] at h
      rw [List.mapM_cons, List.mapM_cons, ← h.1]
      cases hitem : f item with
      | none => rfl
      | some result =>
          have hrest := h.2
          rw [hitem, Option.isSome_some, if_pos rfl] at hrest
          rw [ih hrest]

/-- The same for steps that fail where `f` gives nothing. -/
theorem mapM_congr_attempted_of_fails {g h : α → Except ε β}
    (hfails : ∀ item, f item = none → ∃ e, g item = .error e)
    (hsame : ∀ item ∈ attempted f items, g item = h item) : items.mapM g = items.mapM h := by
  induction items with
  | nil => rfl
  | cons item rest ih =>
      rw [attempted, List.forall_mem_cons] at hsame
      rw [List.mapM_cons, List.mapM_cons, ← hsame.1]
      cases hitem : f item with
      | none =>
          obtain ⟨e, he⟩ := hfails item hitem
          rw [he]
          rfl
      | some result =>
          have hrest := hsame.2
          rw [hitem, Option.isSome_some, if_pos rfl] at hrest
          rw [ih hrest]

end Attempted

namespace Rules

variable (rules : Rules)

/-! ## Which tokens are decoded as integers -/

/-- A token that is decoded as an atom, if it is decoded as an integer. -/
def atomInts : FieldType → List Char → List (List Char)
  | .int, token => [token]
  | .string, _ => []

/-- The tokens that are decoded as integer fields. -/
def fieldInts : List (String × FieldType) → Splitter → List (List Char)
  | [], _ => []
  | (_, type) :: fields, s =>
      match rules.next? s with
      | none => []
      | some (token, s) => atomInts type token ++ fieldInts fields s

/-- The tokens that are decoded as integers for a single value. -/
def datumInts (shape : DatumShape) (text : List Char) : List (List Char) :=
  match shape with
  | .atom type => atomInts type text
  | .record fields => rules.fieldInts fields (Splitter.ofText text fieldDelimiter)

/-- The tokens that are decoded as integers for the value of a column. -/
def valueInts (column : ColumnLayout) (cell : List Char) : List (List Char) :=
  if column.isList then
    if cell.isEmpty then []
    else (attempted (rules.readDatum column.shape)
      (rules.tokens (Splitter.ofText cell listDelimiter))).flatMap (rules.datumInts column.shape)
  else rules.datumInts column.shape cell

/-- The tokens that are decoded as integers for a row. -/
def lineInts (layout : Layout) (cells : Cells) : List (List Char) :=
  (attempted (fun (column, cell) => rules.readValue column cell) (layout.columns.zip cells)).flatMap
    fun (column, cell) => rules.valueInts column cell

/-! ## The same values by both rules -/

theorem next?_cpp_eq : cpp.next? = rust.next? :=
  Splitter.next?_eq_nextFound?.symm

theorem tokens_rust_eq (s : Splitter) : rust.tokens s = cpp.tokens s := by
  fun_induction rust.tokens s with
  | case1 s hnone =>
      rw [← next?_cpp_eq] at hnone
      unfold tokens
      split
      next => rfl
      next hsome => simp [hnone] at hsome
  | case2 s token t hsome ih =>
      rw [← next?_cpp_eq] at hsome
      conv_rhs => unfold tokens
      split
      next hnone => simp [hsome] at hnone
      next other u hother =>
        obtain ⟨rfl, rfl⟩ : token = other ∧ t = u := by simpa [hsome] using hother
        rw [ih]

theorem readAtom_rust_eq {type : FieldType} {token : List Char}
    (hints : ∀ int ∈ atomInts type token, Integer.AsciiBlanks int) :
    rust.readAtom type token = cpp.readAtom type token := by
  cases type with
  | string => rfl
  | int =>
      have hblanks := hints token (List.mem_singleton_self _)
      exact congrArg Atom.int (Integer.read_eq_readAscii hblanks)

theorem readFields_rust_eq {fields : List (String × FieldType)} {s : Splitter}
    (hints : ∀ int ∈ rust.fieldInts fields s, Integer.AsciiBlanks int) :
    rust.readFields fields s = cpp.readFields fields s := by
  induction fields generalizing s with
  | nil => rfl
  | cons field fields ih =>
      obtain ⟨name, type⟩ := field
      rw [readFields, readFields, next?_cpp_eq]
      cases htoken : rust.next? s with
      | none => rfl
      | some step =>
          obtain ⟨token, t⟩ := step
          simp only [fieldInts, htoken, List.forall_mem_append] at hints
          have hatom := readAtom_rust_eq hints.1
          simp only [Option.bind_eq_bind, Option.bind_some, ih hints.2, hatom]

theorem readDatum_rust_eq {shape : DatumShape} {text : List Char}
    (hints : ∀ int ∈ rust.datumInts shape text, Integer.AsciiBlanks int) :
    rust.readDatum shape text = cpp.readDatum shape text := by
  cases shape with
  | atom type => exact congrArg (fun a => some (Datum.atom a)) (readAtom_rust_eq hints)
  | record fields =>
      have hfields : rust.readFields fields _ = _ := readFields_rust_eq hints
      rw [readDatum, readDatum, readRecord, readRecord, hfields, next?_cpp_eq]

theorem readValue_rust_eq {column : ColumnLayout} {cell : List Char}
    (hints : ∀ int ∈ rust.valueInts column cell, Integer.AsciiBlanks int) :
    rust.readValue column cell = cpp.readValue column cell := by
  unfold valueInts at hints
  unfold readValue readList
  by_cases hlist : column.isList
  case neg =>
    rw [if_neg hlist] at hints
    rw [if_neg hlist, if_neg hlist, readDatum_rust_eq hints]
  case pos =>
    rw [if_pos hlist] at hints
    rw [if_pos hlist, if_pos hlist]
    by_cases hempty : cell.isEmpty
    · rw [if_pos hempty, if_pos hempty]
    · rw [if_neg hempty] at hints
      rw [if_neg hempty, if_neg hempty, ← tokens_rust_eq]
      have hdata := mapM_congr_attempted fun token htoken => readDatum_rust_eq fun int hint =>
        hints int (List.mem_flatMap.2 ⟨token, htoken, hint⟩)
      rw [hdata]

end Rules

/-! ## The same rows by both rules -/

namespace Reading

section Line

variable {layout : Layout} {line : Nat} {cells : Cells}
  (hlength : cells.length = layout.columns.length)
  (hints : ∀ int ∈ Rules.lineInts .rust layout cells, Integer.AsciiBlanks int)
include hlength hints

theorem readRow_rust_eq : readRow .rust layout line cells = readRow .cpp layout line cells := by
  rw [readRow_eq_mapM hlength, readRow_eq_mapM hlength]
  refine mapM_congr_attempted_of_fails (f := fun (column, cell) => Rules.rust.readValue column cell)
    (fun (column, cell) hnone => ?_) fun (column, cell) hmem => ?_
  · exact ⟨.fault (.invalidValue line column.name), by simp_all [readCell, reject]⟩
  · have hvalue : Rules.rust.readValue column cell = Rules.cpp.readValue column cell :=
      Rules.readValue_rust_eq fun int hint =>
        hints int (List.mem_flatMap.2 ⟨(column, cell), hmem, hint⟩)
    dsimp only
    rw [readCell, readCell, hvalue]

/-- The key is decoded once more, after all values of its line. -/
theorem readKey_rust_eq (hsound : layout.Sound) (hdecodes : (decode? .rust layout cells).isSome) :
    readKey .rust layout (keyCell layout cells) = readKey .cpp layout (keyCell layout cells) := by
  have hlt : layout.keyIndex < cells.length := hlength ▸ hsound.keyIndex_lt
  have hcell : cells[layout.keyIndex]? = some (keyCell layout cells) := by
    rw [keyCell, List.getD_eq_getElem?_getD, List.getElem?_eq_getElem hlt, Option.getD_some]
  have hmem : ((⟨layout.keyName, .atom layout.keyAtom, false⟩ : ColumnLayout),
      keyCell layout cells) ∈ layout.columns.zip cells := by
    refine List.mem_of_getElem? (i := layout.keyIndex) ?_
    rw [List.getElem?_zip_eq_some]
    exact ⟨hsound.key, hcell⟩
  rw [decode?, mapM_isSome_iff] at hdecodes
  refine Rules.readAtom_rust_eq fun int hint => hints int ?_
  rw [Rules.lineInts, attempted_eq_self hdecodes]
  exact List.mem_flatMap.2 ⟨_, hmem, hint⟩

end Line

end Reading

end TableSchema
