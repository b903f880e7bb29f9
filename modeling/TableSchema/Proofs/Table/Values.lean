import TableSchema.Proofs.Success
import TableSchema.Proofs.Table.Tokens
import TableSchema.Proofs.Text.Integers
import TableSchema.Proofs.Text.Parts
import TableSchema.Table.Writing

/-!
# Written values are read back

A value that is written into a cell is read back from it if it is separable, and only then: no field
of a record holds a semicolon, no element of a list holds a bar, and a list that has elements does
not leave the cell empty.
-/

namespace TableSchema

/-- A record whose fields hold no semicolon. -/
def Datum.Separable : Datum → Prop
  | .atom _ => True
  | .record atoms => ∀ a ∈ atoms, Rules.fieldDelimiter ∉ a.written

instance : DecidablePred Datum.Separable
  | .atom _ => isTrue trivial
  | .record atoms =>
      inferInstanceAs (Decidable (∀ a ∈ atoms, Rules.fieldDelimiter ∉ a.written))

/-- A value whose parts can be told from each other in a cell. -/
def Value.Separable : Value → Prop
  | .one e => e.Separable
  | .many es =>
      (es ≠ [] → (Value.many es).written ≠ []) ∧
        ∀ e ∈ es, e.Separable ∧ Rules.listDelimiter ∉ e.written

instance : DecidablePred Value.Separable
  | .one e => inferInstanceAs (Decidable e.Separable)
  | .many es =>
      inferInstanceAs (Decidable ((es ≠ [] → (Value.many es).written ≠ []) ∧
        ∀ e ∈ es, e.Separable ∧ Rules.listDelimiter ∉ e.written))

namespace Rules

theorem readAtom_written {type : FieldType} {a : Atom} (hfits : a.Fits type) :
    rust.readAtom type a.written = a := by
  cases type with
  | int =>
      cases a with
      | int n => exact congrArg Atom.int (Integer.read_decimal n)
      | text s => exact hfits.elim
  | string =>
      cases a with
      | int n => exact hfits.elim
      | text s => simp [readAtom, Atom.written]

theorem readAtoms_written {fields : List (String × FieldType)} {atoms : List Atom}
    (hfits : FieldsFit fields atoms) :
    rust.readAtoms fields (atoms.map Atom.written) = atoms := by
  induction fields generalizing atoms with
  | nil =>
      cases atoms with
      | nil => rfl
      | cons a atoms => exact hfits.elim
  | cons field fields ih =>
      cases atoms with
      | nil => exact hfits.elim
      | cons a atoms =>
          have hrest := ih hfits.2
          rw [readAtoms] at hrest ⊢
          rw [List.map_cons, List.zipWith_cons_cons, readAtom_written hfits.1, hrest]

theorem length_eq_of_fieldsFit {fields : List (String × FieldType)} {atoms : List Atom}
    (hfits : FieldsFit fields atoms) : atoms.length = fields.length := by
  induction fields generalizing atoms with
  | nil =>
      cases atoms with
      | nil => rfl
      | cons a atoms => exact hfits.elim
  | cons field fields ih =>
      cases atoms with
      | nil => exact hfits.elim
      | cons a atoms => rw [List.length_cons, List.length_cons, ih hfits.2]

theorem readRecord_written_iff {fields : List (String × FieldType)} {atoms : List Atom}
    (hfits : FieldsFit fields atoms) :
    rust.readRecord fields (Datum.record atoms).written = some atoms ↔
      (Datum.record atoms).Separable := by
  have hlength := length_eq_of_fieldsFit hfits
  cases hatoms : atoms with
  | nil =>
      subst hatoms
      obtain rfl : fields = [] := List.length_eq_zero_iff.1 hlength.symm
      simp [readRecord, Datum.Separable]
  | cons first others =>
      rw [← hatoms]
      have hne : atoms.map Atom.written ≠ [] := by simp [hatoms]
      have hfields : fields ≠ [] := by
        rintro rfl
        simp [hatoms] at hlength
      rw [readRecord_eq_some_iff hfields, tokens_ofText (by decide)]
      -- There is a token for each field just if no field holds a delimiter.
      have hparts := @length_splitOn_intercalate_iff _ _ fieldDelimiter _ hne
      rw [List.length_map, hlength, List.forall_mem_map] at hparts
      rw [Datum.written, hparts, Datum.Separable]
      constructor
      · intro h
        exact h.1
      · intro hseparable
        refine ⟨hseparable, ?_⟩
        rw [List.splitOn_intercalate _ (List.forall_mem_map.2 hseparable) hne]
        exact readAtoms_written hfits

theorem readDatum_written_iff {shape : DatumShape} {e : Datum} (hfits : e.Fits shape) :
    rust.readDatum shape e.written = some e ↔ e.Separable := by
  cases shape with
  | atom type =>
      cases e with
      | atom a => simp [readDatum, Datum.written, readAtom_written hfits, Datum.Separable]
      | record atoms => exact hfits.elim
  | record fields =>
      cases e with
      | atom a => exact hfits.elim
      | record atoms => simpa [readDatum] using readRecord_written_iff hfits

theorem readList_written_iff {shape : DatumShape} {es : List Datum}
    (hfits : ∀ e ∈ es, e.Fits shape) :
    rust.readList shape (Value.many es).written = some es ↔ (Value.many es).Separable := by
  by_cases hes : es = []
  · subst hes
    simp [readList, Value.written, Value.Separable]
  by_cases hwritten : (Value.many es).written = []
  · -- The empty cell is read as the empty list.
    have hnot : ¬ (Value.many es).Separable := fun h => h.1 hes hwritten
    simpa [readList, hwritten, hnot] using Ne.symm hes
  have hne : es.map Datum.written ≠ [] := by simpa using hes
  have hnotEmpty : (Value.many es).written.isEmpty = false := by simpa using hwritten
  have hparts := @length_splitOn_intercalate_iff _ _ listDelimiter _ hne
  rw [List.length_map, List.forall_mem_map] at hparts
  have hback (hbars : ∀ e ∈ es, listDelimiter ∉ e.written) :
      List.Forall₂ (fun token e => rust.readDatum shape token = some e)
        ((Value.many es).written.splitOn listDelimiter) es ↔ ∀ e ∈ es, e.Separable := by
    rw [Value.written, List.splitOn_intercalate _ (List.forall_mem_map.2 hbars) hne,
      List.forall₂_map_left_iff, List.forall₂_same]
    exact forall₂_congr fun e he => readDatum_written_iff (hfits e he)
  rw [readList, hnotEmpty, if_neg Bool.false_ne_true, tokens_ofText (by decide), mapM_eq_some_iff]
  constructor
  · intro hread
    have hbars := hparts.1 hread.length_eq
    have hseparable := (hback hbars).1 hread
    exact ⟨fun _ => hwritten, fun e he => ⟨hseparable e he, hbars e he⟩⟩
  · intro hseparable
    refine (hback fun e he => (hseparable.2 e he).2).2 fun e he => ?_
    exact (hseparable.2 e he).1

/-- A value is read back from the cell in which it is written if it is separable, and only then. -/
theorem readValue_written_iff {column : ColumnLayout} {value : Value}
    (hfits : value.Fits column) :
    rust.readValue column value.written = some value ↔ value.Separable := by
  cases value with
  | one e =>
      have hdatum := readDatum_written_iff hfits.2
      simpa [readValue, hfits.1, Value.written, Value.Separable] using hdatum
  | many es =>
      have hlist := readList_written_iff hfits.2
      simpa [readValue, hfits.1] using hlist

end Rules

end TableSchema
