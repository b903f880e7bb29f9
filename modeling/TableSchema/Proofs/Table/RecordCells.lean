import TableSchema.Proofs.Table.Decoding
import TableSchema.Proofs.Table.Values
import TableSchema.Table.CppObjects

/-!
# Records and lists in cells

A record is read from a cell just if the cell has as many parts between semicolons as the record has
fields, and a list just if each of its parts between bars is an element. Nothing is lost: the parts
are the elements in their order, and texts can be joined again. Objects that are filled in place
hold the same in the end; if they are refused, what was filled before stays.
-/

namespace TableSchema

namespace Rules

section Parts

variable {rules : Rules} (hrules : rules ∈ [rust, cpp])
include hrules

/-- The tokens of both languages are the parts of a text. -/
theorem tokens_eq_splitOn {delimiter : Char} (hsize : delimiter.utf8Size = 1) (text : List Char) :
    rules.tokens (.ofText text delimiter) = text.splitOn delimiter := by
  rcases List.mem_pair.1 hrules with rfl | rfl
  · exact tokens_ofText hsize text
  · rw [← tokens_rust_eq, tokens_ofText hsize text]

variable {fields : List (String × FieldType)} {text : List Char}

theorem readRecord_eq_some_iff_splitOn (hfields : fields ≠ []) {atoms : List Atom} :
    rules.readRecord fields text = some atoms ↔
      text.count fieldDelimiter + 1 = fields.length ∧
        atoms = rules.readAtoms fields (text.splitOn fieldDelimiter) := by
  rw [readRecord_eq_some_iff hfields, tokens_eq_splitOn hrules (by decide), length_splitOn,
    eq_comm (a := atoms)]

theorem readRecord_isSome_iff (hfields : fields ≠ []) :
    (rules.readRecord fields text).isSome ↔ text.count fieldDelimiter + 1 = fields.length := by
  rw [Option.isSome_iff_exists]
  constructor
  · rintro ⟨atoms, hread⟩
    exact ((readRecord_eq_some_iff_splitOn hrules hfields).1 hread).1
  · intro hcount
    exact ⟨_, (readRecord_eq_some_iff_splitOn hrules hfields).2 ⟨hcount, rfl⟩⟩

theorem readList_eq (shape : DatumShape) (text : List Char) :
    rules.readList shape text =
      if text = [] then some []
      else (text.splitOn listDelimiter).mapM (rules.readDatum shape) := by
  rw [readList, tokens_eq_splitOn hrules (by decide)]
  simp only [List.isEmpty_iff]

/-- Every part of a cell is an integer or a text. -/
theorem readList_atom (type : FieldType) (text : List Char) :
    rules.readList (.atom type) text =
      some (if text = [] then []
        else (text.splitOn listDelimiter).map fun part => .atom (rules.readAtom type part)) := by
  rw [readList_eq hrules]
  split
  · rfl
  · exact List.mapM_pure

end Parts

theorem readDatum_record_eq_some_iff {rules : Rules} {fields : List (String × FieldType)}
    {text : List Char} {e : Datum} :
    rules.readDatum (.record fields) text = some e ↔
      ∃ atoms, rules.readRecord fields text = some atoms ∧ e = .record atoms := by
  rw [readDatum, Option.map_eq_some_iff]
  simp only [eq_comm (a := e)]

/-! ## Texts joined again -/

section Joined

variable {rules : Rules} {text : List Char}

theorem readAtoms_string {fields : List (String × FieldType)}
    (hstrings : ∀ field ∈ fields, field.2 = .string) {parts : List (List Char)}
    (hlength : parts.length = fields.length) :
    rules.readAtoms fields parts = parts.map fun part => .text (String.ofList part) := by
  induction fields generalizing parts with
  | nil =>
      obtain rfl := List.length_eq_zero_iff.1 hlength
      rfl
  | cons field fields ih =>
      obtain ⟨part, rest, rfl⟩ := List.exists_cons_of_length_eq_add_one hlength
      rw [List.forall_mem_cons] at hstrings
      have hrest := ih hstrings.2 (Nat.succ.inj hlength)
      rw [readAtoms] at hrest ⊢
      rw [List.zipWith_cons_cons, hrest, hstrings.1]
      rfl

/-- The parts of a text as texts of their own, which are joined to it again. -/
theorem intercalate_ofList_splitOn (delimiter : Char) :
    [delimiter].intercalate (((text.splitOn delimiter).map String.ofList).map String.toList) =
      text := by
  have hback : String.toList ∘ String.ofList = id := funext fun _ => String.toList_ofList
  rw [List.map_map, hback, List.map_id, List.intercalate_splitOn]

/-- A cell is always a list of texts, which are joined to it again. -/
theorem exists_texts_joined (hrules : rules ∈ [rust, cpp]) (text : List Char) :
    ∃ texts : List String,
      rules.readList (.atom .string) text = some (texts.map fun t => .atom (.text t)) ∧
        [listDelimiter].intercalate (texts.map String.toList) = text := by
  rw [readList_atom hrules]
  by_cases htext : text = []
  · exact ⟨[], by rw [if_pos htext]; rfl, htext.symm⟩
  · refine ⟨(text.splitOn listDelimiter).map String.ofList, ?_, intercalate_ofList_splitOn _⟩
    rw [if_neg htext, List.map_map]
    rfl

end Joined

end Rules

/-! ## Objects filled in place -/

namespace CppReading

/-- What has been filled, unless it was refused. -/
def accepted? {α : Type} (result : Bool × α) : Option α :=
  if result.1 then some result.2 else none

/-- As many members are filled as there are tokens, and the others are left as they were. -/
theorem fillMembers_eq {fields : List (String × FieldType)} {members : List Atom}
    (hlength : members.length = fields.length) (s : Splitter) :
    (fillMembers fields members s).1 =
        Rules.cpp.readAtoms fields (Rules.cpp.tokens s) ++
          members.drop (Rules.cpp.tokens s).length ∧
      (fillMembers fields members s).2.map Rules.cpp.tokens =
        if fields.length ≤ (Rules.cpp.tokens s).length then
          some ((Rules.cpp.tokens s).drop fields.length)
        else none := by
  induction fields generalizing members s with
  | nil =>
      obtain rfl := List.length_eq_zero_iff.1 hlength
      simp [fillMembers, Rules.readAtoms]
  | cons field fields ih =>
      obtain ⟨member, members, rfl⟩ := List.exists_cons_of_length_eq_add_one hlength
      unfold fillMembers
      cases hnext : Rules.cpp.next? s with
      | none => simp [Rules.tokens_of_none hnext, Rules.readAtoms]
      | some step =>
          obtain ⟨token, t⟩ := step
          obtain ⟨hfilled, hleft⟩ := ih (Nat.succ.inj hlength) t
          rw [Rules.tokens_of_some hnext]
          constructor
          · simp [hfilled, Rules.readAtoms]
          · simpa using hleft

section Members

variable {fields : List (String × FieldType)} {text : List Char} {members : List Atom}

theorem parseMembers_eq (hfields : fields ≠ []) (hlength : members.length = fields.length) :
    parseMembers fields text members =
      (decide ((text.splitOn Rules.fieldDelimiter).length = fields.length),
        Rules.cpp.readAtoms fields (text.splitOn Rules.fieldDelimiter) ++
          members.drop (text.splitOn Rules.fieldDelimiter).length) := by
  have hfill := fillMembers_eq hlength (.ofText text Rules.fieldDelimiter)
  rw [Rules.tokens_eq_splitOn (by simp) (by decide)] at hfill
  generalize text.splitOn Rules.fieldDelimiter = tokens at hfill ⊢
  rw [parseMembers, if_neg (by simpa using hfields)]
  cases hread : fillMembers fields members (.ofText text Rules.fieldDelimiter) with
  | mk filled left =>
      rw [hread] at hfill
      obtain ⟨rfl, hleft⟩ := hfill
      cases left with
      | none =>
          have hfew : ¬ fields.length ≤ tokens.length := by
            intro henough
            simp [henough] at hleft
          have hexact : tokens.length ≠ fields.length := by omega
          simp [hexact]
      | some t =>
          by_cases henough : fields.length ≤ tokens.length
          · have hmore : (Rules.cpp.next? t).isSome ↔ fields.length < tokens.length := by
              rw [if_pos henough] at hleft
              rw [Rules.isSome_next?_iff, Option.some.inj hleft, ne_eq, List.drop_eq_nil_iff,
                not_le]
            have hexact : (Rules.cpp.next? t).isNone =
                decide (tokens.length = fields.length) := by
              rw [← Option.not_isSome, Bool.eq_iff_iff, Bool.not_eq_true', decide_eq_true_eq,
                ← Bool.not_eq_true, hmore]
              omega
            simp only [hexact]
          · simp [henough] at hleft

/-- An object is filled with the record that its text is. -/
theorem accepted?_parseMembers (hlength : members.length = fields.length) :
    accepted? (parseMembers fields text members) = Rules.cpp.readRecord fields text := by
  cases hfields : fields with
  | nil =>
      subst hfields
      obtain rfl := List.length_eq_zero_iff.1 hlength
      rfl
  | cons first rest =>
      rw [← hfields]
      have hne : fields ≠ [] := by simp [hfields]
      ext atoms
      rw [Rules.readRecord_eq_some_iff_splitOn (by simp) hne, parseMembers_eq hne hlength,
        accepted?, ← length_splitOn]
      by_cases hexact : (text.splitOn Rules.fieldDelimiter).length = fields.length
      · simp [hexact, ← hlength, eq_comm]
      · simp [hexact]

end Members

section Lists

variable {α : Type} {parse : List Char → Bool × α}

/-- Elements are put at the end of a list up to the first one that is refused. -/
theorem pushTokens_eq (elements : List α) (s : Splitter) :
    pushTokens parse elements s =
      ((Rules.cpp.tokens s).all fun token => (parse token).1,
        elements ++ ((Rules.cpp.tokens s).takeWhile fun token => (parse token).1).map
          fun token => (parse token).2) := by
  fun_induction pushTokens parse elements s with
  | case1 elements s hnone => simp [Rules.tokens_of_none hnone]
  | case2 elements s token t hsome element hrefused =>
      simp [Rules.tokens_of_some hsome, hrefused]
  | case3 elements s token t hsome element haccepted ih =>
      simp [Rules.tokens_of_some hsome, haccepted, ih]

theorem mapM_accepted?_eq (tokens : List (List Char)) :
    tokens.mapM (fun token => accepted? (parse token)) =
      accepted? (tokens.all fun token => (parse token).1,
        (tokens.takeWhile fun token => (parse token).1).map fun token => (parse token).2) := by
  induction tokens with
  | nil => rfl
  | cons token rest ih =>
      rw [List.mapM_cons, ih, List.all_cons, List.takeWhile_cons]
      cases hvalid : (parse token).1 with
      | false => simp [accepted?, hvalid]
      | true =>
          have hfirst : accepted? (parse token) = some (parse token).2 := by
            rw [accepted?, if_pos hvalid]
          rw [hfirst, if_pos rfl, List.map_cons, Bool.true_and]
          cases hrest : rest.all fun token => (parse token).1 <;> rfl

/-- A list is filled with what the parts of a cell hold, if none of them is refused. -/
theorem accepted?_fillList (cell : List Char) (before : List α) :
    accepted? (fillList parse cell before) =
      if cell = [] then some []
      else (cell.splitOn Rules.listDelimiter).mapM fun part => accepted? (parse part) := by
  unfold fillList
  by_cases hcell : cell = []
  · simp [hcell, accepted?]
  · rw [if_neg (by simpa using hcell), if_neg hcell, pushTokens_eq,
      Rules.tokens_eq_splitOn (by simp) (by decide), mapM_accepted?_eq, List.nil_append]

/-- A list of integers or of texts is filled with what the parts of a cell hold. -/
theorem fillAtoms_eq (type : FieldType) (cell : List Char) (before : List Atom) :
    fillAtoms type cell before =
      (true, if cell = [] then []
        else (cell.splitOn Rules.listDelimiter).map (Rules.cpp.readAtom type)) := by
  unfold fillAtoms fillList
  by_cases hcell : cell = []
  · simp [hcell]
  · have hall : (cell.splitOn Rules.listDelimiter).takeWhile (fun _ => true) =
        cell.splitOn Rules.listDelimiter := List.takeWhile_eq_self_iff.2 fun _ _ => rfl
    rw [if_neg (by simpa using hcell), if_neg hcell, pushTokens_eq,
      Rules.tokens_eq_splitOn (by simp) (by decide), hall]
    simp

theorem accepted?_fillAtoms (cell : List Char) (type : FieldType) (before : List Atom) :
    (accepted? (fillAtoms type cell before)).map (List.map Datum.atom) =
      Rules.cpp.readList (.atom type) cell := by
  rw [fillAtoms_eq, Rules.readList_atom (by simp), accepted?, if_pos rfl, Option.map_some]
  split
  · rfl
  · rw [List.map_map]
    rfl

/-- A list of records is filled with the elements of the list that a cell is. -/
theorem accepted?_fillRecords (fields : List (String × FieldType)) (cell : List Char)
    (before : List (List Atom)) :
    (accepted? (fillRecords fields cell before)).map (List.map Datum.record) =
      Rules.cpp.readList (.record fields) cell := by
  have hnew : (newMembers fields).length = fields.length := List.length_map _
  rw [fillRecords, accepted?_fillList, Rules.readList_eq (by simp)]
  by_cases hcell : cell = []
  · simp [hcell]
  · rw [if_neg hcell, if_neg hcell, ← mapM_map_eq]
    simp only [accepted?_parseMembers hnew]
    rfl

end Lists

end CppReading

/-! ## Both languages -/

section Exact

variable (rules : Rules) (fields : List (String × FieldType)) (text : List Char)

/-- The readers of a language read records and lists from a cell exactly. -/
structure Rules.ReadsExactly : Prop where
  /-- Without fields, any cell will do. -/
  noFields : rules.readRecord [] text = some []
  /-- A record with fields takes one semicolon less than there are fields. -/
  record : fields ≠ [] →
    ((rules.readRecord fields text).isSome ↔ text.count fieldDelimiter + 1 = fields.length)
  /-- Each field is what stands in its place between the semicolons. -/
  atoms : fields ≠ [] → ∀ atoms, rules.readRecord fields text = some atoms →
    atoms = List.zipWith (fun field part => rules.readAtom field.2 part) fields
      (text.splitOn fieldDelimiter)
  emptyCell : rules.readList (.record fields) [] = some []
  /-- In any other cell, every part between bars has to be a record. -/
  list : text ≠ [] →
    ((rules.readList (.record fields) text).isSome ↔
      ∀ part ∈ text.splitOn listDelimiter, (rules.readRecord fields part).isSome)
  /-- These are the elements, in their order. -/
  elements : text ≠ [] → ∀ es, rules.readList (.record fields) text = some es →
    es.length = text.count listDelimiter + 1 ∧
      List.Forall₂ (fun part e => ∃ atoms, rules.readRecord fields part = some atoms ∧
        e = .record atoms) (text.splitOn listDelimiter) es
  /-- A list of texts is joined to the cell again. -/
  listJoined : ∃ texts : List String,
    rules.readList (.atom .string) text = some (texts.map fun t => .atom (.text t)) ∧
      [listDelimiter].intercalate (texts.map String.toList) = text
  /-- So is a record of texts. -/
  recordJoined : fields ≠ [] → (∀ field ∈ fields, field.2 = .string) →
    ∀ atoms, rules.readRecord fields text = some atoms →
      ∃ texts : List String, atoms = texts.map Atom.text ∧
        [fieldDelimiter].intercalate (texts.map String.toList) = text

/-- What is filled in place from a cell is what is read from it, whatever there was before. -/
structure CppReading.FillsAsRead : Prop where
  record : ∀ members, members.length = fields.length →
    accepted? (parseMembers fields text members) = Rules.cpp.readRecord fields text
  /-- An object that is refused is filled as far as there are parts. -/
  members : fields ≠ [] → ∀ members, members.length = fields.length →
    (parseMembers fields text members).2 =
      List.zipWith (fun field part => Rules.cpp.readAtom field.2 part) fields
          (text.splitOn Rules.fieldDelimiter) ++
        members.drop (text.splitOn Rules.fieldDelimiter).length
  records : ∀ before, (accepted? (fillRecords fields text before)).map (List.map Datum.record) =
    Rules.cpp.readList (.record fields) text
  atoms : ∀ type before, (accepted? (fillAtoms type text before)).map (List.map Datum.atom) =
    Rules.cpp.readList (.atom type) text

variable {rules fields text}

theorem Rules.readsExactly (hrules : rules ∈ [rust, cpp]) : rules.ReadsExactly fields text where
  noFields := rfl
  record := readRecord_isSome_iff hrules
  atoms := fun hfields _ hread => ((readRecord_eq_some_iff_splitOn hrules hfields).1 hread).2
  emptyCell := rfl
  list := by
    intro htext
    rw [readList_eq hrules, if_neg htext]
    simp only [mapM_isSome_iff, readDatum, Option.isSome_map]
  elements := by
    intro htext es hread
    rw [readList_eq hrules, if_neg htext] at hread
    have helements := mapM_eq_some_iff.1 hread
    rw [← helements.length_eq, length_splitOn]
    exact ⟨rfl, helements.imp fun _ _ => readDatum_record_eq_some_iff.1⟩
  listJoined := exists_texts_joined hrules text
  recordJoined := by
    intro hfields hstrings atoms hread
    obtain ⟨hcount, rfl⟩ := (readRecord_eq_some_iff_splitOn hrules hfields).1 hread
    refine ⟨(text.splitOn fieldDelimiter).map String.ofList, ?_, intercalate_ofList_splitOn _⟩
    rw [readAtoms_string hstrings (by rw [length_splitOn, hcount]), List.map_map]
    rfl

theorem CppReading.fillsAsRead : FillsAsRead fields text where
  record := fun _ hlength => accepted?_parseMembers hlength
  members := by
    intro hfields members hlength
    rw [parseMembers_eq hfields hlength]
    rfl
  records := accepted?_fillRecords fields text
  atoms := accepted?_fillAtoms text

end Exact

/-- The readers of both languages take every cell apart exactly, and objects that are filled in
place hold just what they read. -/
theorem cells_read_exactly (fields : List (String × FieldType)) (text : List Char) :
    (∀ rules ∈ [Rules.rust, Rules.cpp], rules.ReadsExactly fields text) ∧
      CppReading.FillsAsRead fields text := by
  constructor
  · intro rules hrules
    exact Rules.readsExactly hrules
  · exact CppReading.fillsAsRead

/-- A text with too few parts is refused after the first member has been filled. -/
example : CppReading.parseMembers [("price", .int), ("colour", .string)] "7kg".toList
    [.int 0, .text "red"] = (false, [.int 7, .text "red"]) := by rfl

end TableSchema
