import TableSchema.Generate.Emission
import TableSchema.Proofs.Generate.DefinedTypes
import TableSchema.Proofs.Generate.EveryLine
import TableSchema.Proofs.Generate.FileNames

/-!
# Characters of generated code

Names, numbers and what is made of them for generated code are printable ASCII text. Some characters
are left out of most of the code, which tells where the few lines come from that have them.
-/

namespace TableSchema

namespace Generate

/-- Whether a character is one of ASCII that has a glyph, or the space. -/
def isPrintable (c : Char) : Bool :=
  ' ' ≤ c && c ≤ '~'

/-- Whether a character is printable and not among some that are left out. -/
def isPrintableNot (excluded : List Char) (c : Char) : Bool :=
  isPrintable c && !excluded.contains c

/-- All characters of a text are of one kind. -/
structure Only (kind : Char → Bool) (text : String) : Prop where
  chars : ∀ c ∈ text.toList, kind c

abbrev Printable (text : String) : Prop :=
  Only isPrintable text

/-- Printable text in which some characters do not stand. -/
abbrev Without (excluded : List Char) (text : String) : Prop :=
  Only (isPrintableNot excluded) text

section Only

variable {kind other : Char → Bool}

theorem Only.mono {text : String} (htext : Only kind text) (hkinds : ∀ c, kind c → other c) :
    Only other text where
  chars c hmem := hkinds c (htext.chars c hmem)

theorem Only.printable {text : String} {excluded : List Char} (htext : Without excluded text) :
    Printable text :=
  htext.mono fun _ hc => (Bool.and_eq_true_iff.1 hc).1

theorem Only.subset {text : String} {excluded others : List Char} (htext : Without excluded text)
    (hothers : others ⊆ excluded) : Without others text :=
  htext.mono fun c hc => by
    simp only [isPrintableNot, Bool.and_eq_true, Bool.not_eq_true', List.contains_eq_mem,
      decide_eq_false_iff_not] at hc ⊢
    exact ⟨hc.1, fun hmem => hc.2 (hothers hmem)⟩

theorem Only.not_mem {text : String} {excluded : List Char} (htext : Without excluded text)
    {c : Char} (hc : c ∈ excluded) : c ∉ text.toList := by
  intro hmem
  have hkind := (Bool.and_eq_true_iff.1 (htext.chars c hmem)).2
  simp [hc] at hkind

/-- A text that is written out in the generator. -/
theorem only_ofList {cs : List Char} (hcs : cs.all kind = true) : Only kind (String.ofList cs) where
  chars := by
    rw [String.toList_ofList]
    exact List.all_eq_true.1 hcs

@[simp] theorem only_append {first second : String} :
    Only kind (first ++ second) ↔ Only kind first ∧ Only kind second := by
  have hchars : (∀ c ∈ (first ++ second).toList, kind c) ↔
      (∀ c ∈ first.toList, kind c) ∧ ∀ c ∈ second.toList, kind c := by
    rw [String.toList_append, List.forall_mem_append]
  exact ⟨fun h => ⟨⟨(hchars.1 h.chars).1⟩, ⟨(hchars.1 h.chars).2⟩⟩,
    fun h => ⟨hchars.2 ⟨h.1.chars, h.2.chars⟩⟩⟩

theorem only_indentLine (hspace : kind ' ' = true) {line : String} :
    Only kind (indentLine line) ↔ Only kind line := by
  unfold indentLine
  split
  · rfl
  · rw [only_append, and_iff_right]
    exact show Only kind (String.ofList [' ', ' ', ' ', ' ']) from only_ofList (by simp [hspace])

@[simp] theorem printable_indentLine {line : String} :
    Printable (indentLine line) ↔ Printable line :=
  only_indentLine rfl

theorem Only.lineFeed_not_mem {text : String} (htext : Printable text) : '\n' ∉ text.toList :=
  fun hmem => absurd (htext.chars '\n' hmem) (by decide)

theorem without_indentLine {excluded : List Char} (hspace : ' ' ∉ excluded) {line : String} :
    Without excluded (indentLine line) ↔ Without excluded line :=
  only_indentLine (by simpa [isPrintableNot] using ⟨by decide, hspace⟩)

end Only

theorem forall_mem_joined {P : Char → Prop} {separator : String} {parts : List String}
    (hseparator : ∀ c ∈ separator.toList, P c) (hparts : ∀ part ∈ parts, ∀ c ∈ part.toList, P c) :
    ∀ c ∈ (joined separator parts).toList, P c := by
  intro c hmem
  by_contra hnot
  rw [joined, String.toList_intercalate] at hmem
  refine not_mem_intercalate (fun hmem => hnot (hseparator c hmem)) ?_ hmem
  rw [List.forall_mem_map]
  exact fun part hpart hmem => hnot (hparts part hpart c hmem)

theorem only_joined {kind : Char → Bool} {separator : String} {parts : List String}
    (hseparator : Only kind separator) (hparts : ∀ part ∈ parts, Only kind part) :
    Only kind (joined separator parts) where
  chars := forall_mem_joined hseparator.chars fun part hmem => (hparts part hmem).chars

/-! ## Words -/

theorem IsWord.printable {word : String} (hword : IsWord word) : Printable word where
  chars c hmem := forall_isIdentifierPart (P := (isPrintable · = true)) (by decide) (hword c hmem)

theorem IsWord.without {excluded : List Char}
    (hexcluded : excluded.all (fun c => !isIdentifierPart c) = true) {word : String}
    (hword : IsWord word) : Without excluded word where
  chars c hmem := by
    have hnot : c ∉ excluded := fun hc => by
      simpa [hword c hmem] using List.all_eq_true.1 hexcluded c hc
    simpa [isPrintableNot] using ⟨hword.printable.chars c hmem, hnot⟩

@[simp] theorem printable_repr (n : Nat) : Printable n.repr :=
  (isWord_toString n).printable

theorem isIdentifierPart_toUpper {c : Char} (hpart : isIdentifierPart c) :
    isIdentifierPart c.toUpper :=
  forall_isIdentifierPart (P := fun c => isIdentifierPart c.toUpper) (by decide) hpart

theorem isWord_upper {word : String} (hword : IsWord word) : IsWord (Unicode.upper word) := by
  intro c hmem
  rw [Unicode.upper, String.toList_ofList, List.mem_flatMap] at hmem
  obtain ⟨d, hmem, hupper⟩ := hmem
  have hpart := hword d hmem
  rw [Unicode.upperChar, if_pos (ascii_of_isIdentifierPart hpart), List.mem_singleton] at hupper
  rw [hupper]
  exact isIdentifierPart_toUpper hpart

/-! ## Tables -/

open Rust (NamesWords)

/-- A table all of whose names can stand in code. -/
structure TableWords (schema : Schema) (table : Table) : Prop where
  name : IsWord table.name
  keyName : IsWord table.keyName
  columns : ∀ column ∈ table.columns.toList, IsWord column.name
  localStructs : ∀ struct ∈ table.localStructs.toList, NamesWords struct
  columnStructs : ∀ column ∈ table.columns.toList, ∀ struct,
    schema.columnStruct? table column = some struct → IsWord struct.name
  owners : ∀ struct ∈ table.localStructs.toList, ∀ owner,
    struct.owner = some owner → IsWord owner

end Generate

open Generate

theorem Schema.WellFormed.tableWords {schema : Schema} (hwell : schema.WellFormed) {table : Table}
    (htable : table ∈ schema.tables.toList) : TableWords schema table where
  name := isWord_tableName hwell htable
  keyName := by
    obtain ⟨key, hkey, hname, -⟩ := (hwell.tables table htable).key
    rw [← hname]
    exact isWord_of_properNames (hwell.tables table htable).columnNames key
      (List.mem_of_getElem? hkey)
  columns := isWord_of_properNames (hwell.tables table htable).columnNames
  localStructs _ hmem := (hwell.tables table htable).namesWords hmem
  columnStructs _ _ _ hfound := by
    obtain ⟨ref, -, hstruct⟩ := Option.bind_eq_some_iff.1 hfound
    exact isWord_of_identifier (hwell.structName (hwell.tables table htable) hstruct)
  owners struct hstruct owner howner := by
    rw [((hwell.tables table htable).localStructs struct hstruct).owned] at howner
    obtain rfl := Option.some.inj howner
    exact isWord_tableName hwell htable

/-- The structs of the schema itself belong to no table. -/
theorem Schema.WellFormed.globalOwners {schema : Schema} (hwell : schema.WellFormed)
    {struct : Struct} (hstruct : struct ∈ schema.globalStructs.toList) :
    ∀ owner, struct.owner = some owner → IsWord owner := by
  intro owner howner
  rw [(hwell.globalStructs struct hstruct).unowned] at howner
  cases howner

theorem Schema.WellFormed.namespaceWords {schema : Schema} (hwell : schema.WellFormed)
    {declared : Reader} (hdeclared : declared ∈ schema.readers.toList) :
    ∀ part ∈ declared.namespaceParts, IsWord part :=
  fun part hpart => isWord_of_identifier (hwell.namespaces declared hdeclared part hpart)

end TableSchema
