import Mathlib.Data.List.Basic
import TableSchema.Generate.Lines
import TableSchema.Proofs.Schema.Declarations
import TableSchema.Schema.WellFormed

/-!
# Names in generated lines

Which names generated code gives to types and fields is read off its lines: a name follows the words
that introduce it, and the indentation of the line says in which block it stands.
-/

namespace TableSchema

/-- The names that the types of rows have in the code of a table. -/
def KeyType.rowTypeNames : KeyType → List String
  | .single => ["Row", "Rows"]
  | .set => ["Row", "RowSet", "RowSets"]

theorem KeyType.rowTypeNames_subset (keyType : KeyType) :
    keyType.rowTypeNames ⊆ reservedStructNames := by
  cases keyType with
  | single => decide
  | set => decide

/-- The types that a table brings along have different names. -/
theorem Table.WellFormed.nodup_ownTypeNames {schema : Schema} {table : Table}
    (hwell : table.WellFormed schema) :
    (table.localStructs.names ++ table.keyType.rowTypeNames).Nodup := by
  have hrows : table.keyType.rowTypeNames.Nodup := by
    cases table.keyType with
    | single => decide
    | set => decide
  refine List.nodup_append.2 ⟨hwell.localStructNames.distinct, hrows, ?_⟩
  rintro name hlocal _ hrow rfl
  obtain ⟨struct, hmem, rfl⟩ := List.mem_map.1 hlocal
  exact (hwell.localStructs struct hmem).unreserved (table.keyType.rowTypeNames_subset hrow)

namespace Generate

/-- The identifier after an opening, if the line starts with it. -/
def identifierAfter (opening line : String) : Option String :=
  (line.toList.dropPrefix? opening.toList).map fun rest =>
    String.ofList (rest.takeWhile isIdentifierPart)

/-- A text that can stand in an identifier. -/
def IsWord (text : String) : Prop :=
  ∀ c ∈ text.toList, isIdentifierPart c

instance (text : String) : Decidable (IsWord text) :=
  decidable_of_iff (text.toList.all isIdentifierPart = true) List.all_eq_true

/-- A word that is written out in the generator. -/
theorem isWord_ofList {cs : List Char} (hcs : cs.all isIdentifierPart = true) :
    IsWord (String.ofList cs) := by
  rw [IsWord, String.toList_ofList]
  exact List.all_eq_true.1 hcs

theorem IsWord.append {first second : String} (hfirst : IsWord first) (hsecond : IsWord second) :
    IsWord (first ++ second) := by
  rw [IsWord, String.toList_append, List.forall_mem_append]
  exact ⟨hfirst, hsecond⟩

theorem isWord_of_identifier {name : String} (hname : Identifier name) : IsWord name := by
  intro c hmem
  by_contra hpart
  exact hname.not_mem (Bool.eq_false_iff.2 hpart) hmem

theorem isWord_toString (n : Nat) : IsWord (toString n) := by
  intro c hmem
  have hdigits : c ∈ Nat.toDigits 10 n := Nat.toList_repr ▸ hmem
  have hdigit : c.isDigit := Nat.isDigit_of_mem_toDigits (by decide) (by decide) hdigits
  simp [isIdentifierPart, Char.isAlphanum, hdigit]

theorem isWord_of_properNames {α : Type} [Named α] {catalog : Catalog α}
    (hnames : ProperNames catalog.names) : ∀ entry ∈ catalog.toList, IsWord (Named.name entry) :=
  fun _ hmem => isWord_of_identifier (hnames.identifiers _ (List.mem_map_of_mem hmem))

theorem isWord_tableName {schema : Schema} (hwell : schema.WellFormed) {table : Table}
    (htable : table ∈ schema.tables.toList) : IsWord table.name :=
  isWord_of_identifier <| hwell.globalNames.identifiers _ <|
    List.mem_append_right _ (List.mem_map_of_mem htable)

theorem identifierAfter_append {opening name rest : String} (hname : IsWord name)
    (hrest : rest.toList.head?.any isIdentifierPart = false) :
    identifierAfter opening (opening ++ name ++ rest) = some name := by
  have hend : rest.toList.takeWhile isIdentifierPart = [] := by
    cases hchars : rest.toList with
    | nil => rfl
    | cons c chars =>
        rw [hchars] at hrest
        exact List.takeWhile_cons_of_neg (by simpa using hrest)
  rw [identifierAfter, String.append_assoc, String.toList_append,
    List.dropPrefix?_append_of_beq _ (beq_self_eq_true _), Option.map_some, String.toList_append,
    List.takeWhile_append_of_pos hname, hend, List.append_nil, String.ofList_toList]

/-- A name does not go on in a text that starts with something else. -/
theorem head?_append_any {start : String} (hstart : start.toList.head?.any isIdentifierPart = false)
    (hne : start ≠ "") (rest : String) :
    (start ++ rest).toList.head?.any isIdentifierPart = false := by
  obtain ⟨c, chars, hchars⟩ := List.exists_cons_of_ne_nil (mt String.toList_eq_nil_iff.1 hne)
  rw [hchars] at hstart
  rw [String.toList_append, hchars]
  exact hstart

theorem identifierAfter_eq_none_iff {opening line : String} :
    identifierAfter opening line = none ↔ ¬ opening.toList <+: line.toList := by
  rw [identifierAfter, Option.map_eq_none_iff, Option.eq_none_iff_forall_ne_some]
  simp only [ne_eq, List.dropPrefix?_eq_some_iff, beq_iff_eq]
  constructor
  · rintro hnone ⟨rest, hrest⟩
    exact hnone rest ⟨_, hrest.symm, rfl⟩
  · rintro hnot rest ⟨_, hrest, rfl⟩
    exact hnot ⟨rest, hrest.symm⟩

/-- A line that starts otherwise. -/
theorem identifierAfter_of_start {opening start : String}
    (hapart : ¬ opening.toList <+: start.toList ∧ ¬ start.toList <+: opening.toList)
    (rest : String) : identifierAfter opening (start ++ rest) = none := by
  rw [identifierAfter_eq_none_iff, String.toList_append]
  intro hopening
  rcases List.prefix_or_prefix_of_prefix hopening (List.prefix_append _ _) with h | h
  · exact hapart.1 h
  · exact hapart.2 h

/-- An indented line has after an indented opening what the line has after the opening. -/
theorem identifierAfter_indentLine {opening : String} (hopening : opening ≠ "") (line : String) :
    identifierAfter ("    " ++ opening) (indentLine line) = identifierAfter opening line := by
  by_cases hline : line = ""
  · subst hline
    rw [identifierAfter_eq_none_iff.2, identifierAfter_eq_none_iff.2]
    · simpa using hopening
    · simp [indentLine]
  · rw [indentLine, if_neg (by simpa using hline), identifierAfter, identifierAfter,
      String.toList_append, String.toList_append]
    rfl

/-- An indented line has nothing after an opening that is not indented. -/
theorem identifierAfter_indentLine_of_head {opening : String} {c : Char}
    (hhead : opening.toList.head? = some c) (hspace : c ≠ ' ') (line : String) :
    identifierAfter opening (indentLine line) = none := by
  obtain ⟨rest, hopening⟩ := List.head?_eq_some_iff.1 hhead
  rw [identifierAfter_eq_none_iff, hopening, indentLine]
  split
  next hempty =>
    rw [String.isEmpty_iff] at hempty
    simp [hempty]
  next => simp [hspace]

theorem filterMap_indent {α : Type} {f g : String → Option α}
    (hindent : ∀ line, f (indentLine line) = g line) (lines : Lines) :
    (indent lines).filterMap f = lines.filterMap g := by
  rw [indent, List.filterMap_map]
  exact List.filterMap_congr fun line _ => hindent line

theorem filterMap_spaced {α : Type} {f : String → Option α} (hempty : f "" = none)
    (groups : List Lines) :
    (spaced groups).filterMap f = groups.flatMap (List.filterMap f) := by
  induction groups with
  | nil => rfl
  | cons group rest ih =>
      cases rest with
      | nil => simp [spaced]
      | cons next rest =>
          rw [spaced, List.filterMap_append, List.filterMap_append, ih, List.flatMap_cons]
          · simp [hempty]
          · simp

/-! ## Readings of lines -/

theorem indentLine_ne_brace (line : String) : indentLine line ≠ "\x7d" := by
  unfold indentLine
  split
  next hempty =>
    rw [String.isEmpty_iff] at hempty
    rw [hempty]
    decide
  next =>
    intro heq
    have hhead := congrArg (fun text : String => text.toList.head?) heq
    simp at hhead

/-- The lines of a block end where its brace is closed. -/
theorem takeWhile_indent (body rest : Lines) :
    (indent body ++ "\x7d" :: rest).takeWhile (· ≠ "\x7d") = indent body := by
  rw [List.takeWhile_append_of_pos, List.takeWhile_cons_of_neg (by simp), List.append_nil]
  intro line hmem
  obtain ⟨inner, -, rfl⟩ := List.mem_map.1 hmem
  simpa using indentLine_ne_brace inner

/-- Lines in which a reading finds certain things, whatever follows them. -/
def Finds {α : Type} (read : Lines → List α) (lines : Lines) (found : List α) : Prop :=
  ∀ rest, read (lines ++ rest) = found ++ read rest

section Finds

variable {α : Type} {read : Lines → List α}

theorem finds_nothing {P : String → Prop}
    (hread : ∀ line, P line → ∀ rest, read (line :: rest) = read rest) {lines : Lines}
    (hlines : ∀ line ∈ lines, P line) : Finds read lines [] := by
  intro rest
  induction lines with
  | nil => rfl
  | cons line lines ih =>
      obtain ⟨hline, hlines⟩ := List.forall_mem_cons.1 hlines
      rw [List.cons_append, hread line hline, ih hlines]

theorem Finds.append {lines others : Lines} {found more : List α} (hlines : Finds read lines found)
    (hothers : Finds read others more) : Finds read (lines ++ others) (found ++ more) := by
  intro rest
  rw [List.append_assoc, hlines, hothers, List.append_assoc]

theorem Finds.read_eq {lines : Lines} {found : List α} (hlines : Finds read lines found)
    (hnil : read [] = []) : read lines = found := by
  have h := hlines []
  rwa [List.append_nil, hnil, List.append_nil] at h

theorem finds_spaced (hblank : Finds read [""] []) {groups : List Lines} {found : List (List α)}
    (hgroups : List.Forall₂ (Finds read) groups found) :
    Finds read (spaced groups) found.flatten := by
  induction hgroups with
  | nil => exact fun rest => rfl
  | cons hfirst hrest ih =>
      cases hrest with
      | nil => simpa [spaced] using hfirst
      | cons hnext hrest =>
          have hall := (hfirst.append hblank).append ih
          rwa [List.append_nil] at hall

end Finds

end Generate

end TableSchema
