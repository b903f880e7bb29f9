import TableSchema.Proofs.Generate.Printable
import TableSchema.Proofs.Generate.UsedStructs

/-!
# Printable C++ code

The lines of generated C++ code are printable text if the names in them are words. What holds of
the lines of a header that name no types holds of the whole header just if it holds of the others.
-/

namespace TableSchema.Generate.Cpp

open Rust (NamesWords)

variable {schema : Schema} {table : Table} {struct : Struct} {column key : Column}

/-- Printable text without an apostrophe. -/
abbrev Unquoted (text : String) : Prop :=
  Without ['\''] text

/-- Printable text without an apostrophe and without an opening angle bracket. -/
abbrev Plain (text : String) : Prop :=
  Without ['\'', '<'] text

/-- The text of a type, up to the brackets of vectors. -/
abbrev TypeText (text : String) : Prop :=
  Without [' ', '#', '/', '\'', '<'] text

/-- The text of an include, with paths in which no colons stand. -/
abbrev IncludeText (text : String) : Prop :=
  Without ['\'', ':'] text

@[simp] theorem unquoted_indentLine {line : String} :
    Unquoted (indentLine line) ↔ Unquoted line :=
  without_indentLine (by decide)

theorem unquoted_word {word : String} (hword : IsWord word) : Unquoted word :=
  hword.without (by decide)

@[simp] theorem unquoted_repr (n : Nat) : Unquoted n.repr :=
  unquoted_word (isWord_toString n)

/-! ## Lines of headers -/

theorem isWord_guardName {parts : List String} (hparts : ∀ part ∈ parts, IsWord part)
    {name : String} (hname : IsWord name) : IsWord (guardName parts name) := by
  refine isWord_upper (forall_mem_joined (by decide : IsWord "_") ?_)
  simp only [List.forall_mem_append, List.forall_mem_cons, List.not_mem_nil, false_imp_iff,
    implies_true, and_true]
  exact ⟨⟨(by decide : IsWord "TABLEKIT_GENERATED"), hparts⟩, isWord_snakeCase hname,
    (by decide : IsWord "H")⟩

/-- The declaration of a member. -/
def memberLine (type name : String) : String :=
  type ++ " " ++ name ++ ";"

/-- The lines of classes in which neither names nor the types of members stand. -/
def classLines : Lines :=
  ["", "class Row \x7b", "public:", "private:", "\x7d;", "Row();", "~Row();",
    "bool parse(const std::string &text);",
    "bool parse(const std::string &text, std::string *error_info);", "Rows rows_;",
    "RowSets row_sets_;"]

/-- What lines have whatever their indentation, and all lines of classes that name no types. -/
structure ClassProperty (P : String → Prop) : Prop where
  indentLine : ∀ line, P (indentLine line) ↔ P line
  fixed : ∀ line ∈ classLines, P line
  opensClass : ∀ name, IsWord name → P ("class " ++ name ++ " \x7b")
  constructs : ∀ name, IsWord name → P (name ++ "();") ∧ P ("~" ++ name ++ "();")

/-- What the lines around a class in a header have as well. -/
structure HeaderProperty (P : String → Prop) : Prop extends ClassProperty P where
  ends : ∀ line ∈ heading ++ ["#endif"], P line
  guard : ∀ word, IsWord word → P ("#ifndef " ++ word) ∧ P ("#define " ++ word)
  inNamespace : ∀ parts, (∀ part ∈ parts, IsWord part) →
    P ("namespace " ++ joined "::" parts ++ " \x7b") ∧ P ("\x7d // namespace " ++ joined "::" parts)

section Classes

variable {P : String → Prop} (hP : ClassProperty P)
include hP

theorem ClassProperty.blank : P "" :=
  hP.fixed "" List.mem_cons_self

theorem ClassProperty.forall_mem_structClass (hname : IsWord struct.name) :
    (∀ line ∈ structClass struct, P line) ↔
      ∀ field ∈ struct.fields.toList, P (memberLine (fieldType field.type) field.name) := by
  have hfixed := hP.fixed
  have hopens := hP.opensClass _ hname
  obtain ⟨hconstructs, hdestructs⟩ := hP.constructs _ hname
  simp only [classLines, List.forall_mem_cons, List.not_mem_nil, false_imp_iff, implies_true,
    and_true] at hfixed
  simp only [structClass, List.forall_mem_append, List.forall_mem_cons, List.not_mem_nil,
    forall_mem_indent, forall_mem_linesIf, List.forall_mem_map, hP.indentLine, hopens, hconstructs,
    hdestructs, hfixed, false_imp_iff, implies_true, true_and, and_true]
  rfl

theorem ClassProperty.forall_mem_rowClass :
    (∀ line ∈ rowClass schema table, P line) ↔
      ∀ column ∈ table.columns.toList,
        P (memberLine (columnType schema table column) column.name) := by
  have hfixed := hP.fixed
  simp only [classLines, List.forall_mem_cons, List.not_mem_nil, false_imp_iff, implies_true,
    and_true] at hfixed
  simp only [rowClass, List.forall_mem_append, List.forall_mem_cons, List.not_mem_nil,
    forall_mem_indent, forall_mem_linesIf, List.forall_mem_map, hP.indentLine, hfixed,
    false_imp_iff, implies_true, true_and, and_true]
  rfl

theorem ClassProperty.forall_mem_tableDeclarations (hname : IsWord table.name) :
    (∀ line ∈ tableDeclarations schema table key, P line) ↔
      ∀ line ∈ accessorDeclarations schema table key, P line := by
  have hfixed := hP.fixed
  obtain ⟨hconstructs, hdestructs⟩ := hP.constructs _ hname
  simp only [classLines, List.forall_mem_cons, List.not_mem_nil, false_imp_iff, implies_true,
    and_true] at hfixed
  simp only [tableDeclarations, List.forall_mem_append, List.forall_mem_cons, List.not_mem_nil,
    hconstructs, hdestructs, hfixed, false_imp_iff, implies_true, true_and, and_true]

/-- The lines of a header that name types. -/
structure EachTypeLine (P : String → Prop) (schema : Schema) (table : Table) (key : Column) :
    Prop where
  fields : ∀ struct ∈ table.localStructs.toList, ∀ field ∈ struct.fields.toList,
    P (memberLine (fieldType field.type) field.name)
  columns : ∀ column ∈ table.columns.toList,
    P (memberLine (columnType schema table column) column.name)
  rowTypes : ∀ line ∈ rowTypes schema table key, P line
  accessors : ∀ line ∈ accessorDeclarations schema table key, P line

theorem ClassProperty.forall_mem_tableClass (hwords : TableWords schema table) :
    (∀ line ∈ tableClass schema table key, P line) ↔ EachTypeLine P schema table key := by
  have hfixed := hP.fixed
  have hopens := hP.opensClass _ hwords.name
  simp only [classLines, List.forall_mem_cons, List.not_mem_nil, false_imp_iff, implies_true,
    and_true] at hfixed
  have hmember : P (rowsMember table) := by
    unfold rowsMember
    cases table.keyType <;> simp [hfixed]
  have hstructs : (∀ struct ∈ table.localStructs.toList, ∀ line ∈ structClass struct, P line) ↔
      ∀ struct ∈ table.localStructs.toList, ∀ field ∈ struct.fields.toList,
        P (memberLine (fieldType field.type) field.name) :=
    forall₂_congr fun struct hmem =>
      hP.forall_mem_structClass (hwords.localStructs struct hmem).name
  simp only [tableClass, List.forall_mem_append, List.forall_mem_cons, List.not_mem_nil,
    forall_mem_indent, forall_mem_spaced hP.blank, List.forall_mem_map, hP.indentLine, hopens,
    hmember, hfixed, hstructs, hP.forall_mem_rowClass, hP.forall_mem_tableDeclarations hwords.name,
    false_imp_iff, implies_true, true_and, and_true]
  exact ⟨fun h => ⟨h.1, h.2.1, h.2.2.1, h.2.2.2⟩, fun h => ⟨h.1, h.2, h.3, h.4⟩⟩

end Classes

section Headers

variable {P : String → Prop} (hP : HeaderProperty P)
include hP

theorem HeaderProperty.forall_mem_inNamespace {parts : List String}
    (hparts : ∀ part ∈ parts, IsWord part) {body : Lines} :
    (∀ line ∈ Cpp.inNamespace parts body, P line) ↔ ∀ line ∈ body, P line := by
  obtain ⟨hopens, hcloses⟩ := hP.inNamespace parts hparts
  unfold Cpp.inNamespace
  split
  · rfl
  · simp only [List.forall_mem_append, List.forall_mem_cons, List.not_mem_nil, hP.blank, hopens,
      hcloses, false_imp_iff, implies_true, true_and, and_true]

theorem HeaderProperty.forall_mem_header {parts : List String}
    (hparts : ∀ part ∈ parts, IsWord part) {name : String} (hname : IsWord name)
    {includes declarations : Lines} :
    (∀ line ∈ header parts name includes declarations, P line) ↔
      (∀ line ∈ includes, P line) ∧ ∀ line ∈ declarations, P line := by
  obtain ⟨hheading, hendif⟩ := List.forall_mem_append.1 hP.ends
  rw [List.forall_mem_singleton] at hendif
  obtain ⟨hifndef, hdefine⟩ := hP.guard _ (isWord_guardName hparts hname)
  simp only [header, List.forall_mem_append, List.forall_mem_cons, List.not_mem_nil, hP.blank,
    hendif, hifndef, hdefine, hP.forall_mem_inNamespace hparts, false_imp_iff, implies_true,
    and_true]
  exact and_congr_left' (and_iff_right hheading)

theorem HeaderProperty.forall_mem_tableHeader {parts : List String}
    (hparts : ∀ part ∈ parts, IsWord part) (hwords : TableWords schema table) :
    (∀ line ∈ tableHeader parts schema table key, P line) ↔
      (∀ line ∈ tableIncludes schema table, P line) ∧ EachTypeLine P schema table key := by
  rw [tableHeader, hP.forall_mem_header hparts hwords.name, hP.forall_mem_tableClass hwords]

theorem HeaderProperty.forall_mem_structHeader {parts : List String}
    (hparts : ∀ part ∈ parts, IsWord part) (hname : IsWord struct.name) :
    (∀ line ∈ structHeader parts struct, P line) ↔
      (∀ line ∈ structIncludes struct, P line) ∧
        ∀ field ∈ struct.fields.toList, P (memberLine (fieldType field.type) field.name) := by
  rw [structHeader, hP.forall_mem_header hparts hname, hP.forall_mem_structClass hname]

end Headers

theorem headerProperty_of_plain {P : String → Prop}
    (hindent : ∀ line, P (indentLine line) ↔ P line) (hplain : ∀ line, Plain line → P line) :
    HeaderProperty P where
  indentLine := hindent
  fixed := by
    simp only [classLines, List.forall_mem_cons, List.not_mem_nil, false_imp_iff, implies_true,
      and_true]
    and_intros <;> exact hplain _ (only_ofList rfl)
  ends := by
    simp only [heading, List.forall_mem_append, List.forall_mem_cons, List.not_mem_nil,
      false_imp_iff, implies_true, and_true]
    and_intros <;> exact hplain _ (only_ofList rfl)
  guard word hword := by
    have hword : Plain word := hword.without (by decide)
    exact ⟨hplain _ (only_append.2 ⟨only_ofList rfl, hword⟩),
      hplain _ (only_append.2 ⟨only_ofList rfl, hword⟩)⟩
  inNamespace parts hparts := by
    have hname : Plain (joined "::" parts) :=
      only_joined (only_ofList rfl) fun part hmem => (hparts part hmem).without (by decide)
    exact ⟨hplain _ (only_append.2 ⟨only_append.2 ⟨only_ofList rfl, hname⟩, only_ofList rfl⟩),
      hplain _ (only_append.2 ⟨only_ofList rfl, hname⟩)⟩
  opensClass name hname := by
    have hname : Plain name := hname.without (by decide)
    exact hplain _ (only_append.2 ⟨only_append.2 ⟨only_ofList rfl, hname⟩, only_ofList rfl⟩)
  constructs name hname := by
    have hname : Plain name := hname.without (by decide)
    exact ⟨hplain _ (only_append.2 ⟨hname, only_ofList rfl⟩),
      hplain _ (only_append.2 ⟨only_append.2 ⟨only_ofList rfl, hname⟩, only_ofList rfl⟩)⟩

theorem headerProperty_unquoted : HeaderProperty Unquoted :=
  headerProperty_of_plain (fun _ => unquoted_indentLine) fun _ hline => hline.subset (by simp)

/-! ## Types -/

theorem typeText_fieldType (type : FieldType) : TypeText (fieldType type) := by
  cases type <;> exact only_ofList rfl

theorem typeText_valueType (hwords : TableWords schema table)
    (hcolumn : column ∈ table.columns.toList) : TypeText (valueType schema table column) := by
  have hstruct : TypeText (((schema.columnStruct? table column).map (·.name)).getD "") := by
    cases hfound : schema.columnStruct? table column with
    | none => exact only_ofList rfl
    | some struct => exact (hwords.columnStructs column hcolumn struct hfound).without (by decide)
  unfold valueType
  split
  · exact only_ofList rfl
  · exact only_ofList rfl
  · exact hstruct

theorem without_columnType (hwords : TableWords schema table)
    (hcolumn : column ∈ table.columns.toList) :
    Without [' ', '#', '/', '\''] (columnType schema table column) := by
  have htype : Without [' ', '#', '/', '\''] (valueType schema table column) :=
    (typeText_valueType hwords hcolumn).subset (by simp)
  unfold columnType
  dsimp only
  split
  · simp only [only_append, htype, and_true]
    exact ⟨only_ofList rfl, only_ofList rfl⟩
  · exact htype

theorem unquoted_columnType (hwords : TableWords schema table)
    (hcolumn : column ∈ table.columns.toList) : Unquoted (columnType schema table column) :=
  (without_columnType hwords hcolumn).subset (by simp)

theorem unquoted_keyParameter (hwords : TableWords schema table)
    (hkey : key ∈ table.columns.toList) : Unquoted (keyParameter schema table key) := by
  have htype := unquoted_columnType hwords hkey
  unfold keyParameter
  dsimp only
  split <;> simp [htype] <;> and_intros <;> exact only_ofList rfl

theorem unquoted_memberLine {type name : String} (htype : Unquoted type) (hname : IsWord name) :
    Unquoted (memberLine type name) := by
  unfold memberLine
  simp only [only_append, htype, unquoted_word hname, true_and, and_true]
  exact ⟨only_ofList rfl, only_ofList rfl⟩

/-! ## Headers -/

theorem includeText_own {name : String} (hname : IsWord name) : IncludeText (includeOwn name) := by
  have hstem : IncludeText (fileStem name) := (isWord_snakeCase hname).without (by decide)
  unfold includeOwn
  simp only [only_append, hstem, and_true]
  exact ⟨only_ofList rfl, only_ofList rfl⟩

theorem includeText_system {path : String} (hpath : IncludeText path) :
    IncludeText (includeSystem path) := by
  unfold includeSystem
  simp only [only_append, hpath, and_true]
  exact ⟨only_ofList rfl, only_ofList rfl⟩

theorem unquoted_includeOwn {name : String} (hname : IsWord name) : Unquoted (includeOwn name) :=
  (includeText_own hname).subset (by simp)

theorem unquoted_includeSystem {path : String} (hpath : IncludeText path) :
    Unquoted (includeSystem path) :=
  (includeText_system hpath).subset (by simp)

theorem unquoted_structIncludes (struct : Struct) :
    ∀ line ∈ structIncludes struct, Unquoted line := by
  unfold structIncludes
  simp only [List.forall_mem_append, forall_mem_linesIf, List.forall_mem_singleton]
  exact ⟨fun _ => unquoted_includeSystem (only_ofList rfl),
    unquoted_includeSystem (only_ofList rfl)⟩

theorem unquoted_structHeader {parts : List String} (hparts : ∀ part ∈ parts, IsWord part)
    (hwords : NamesWords struct) : ∀ line ∈ structHeader parts struct, Unquoted line := by
  refine (headerProperty_unquoted.forall_mem_structHeader hparts hwords.name).2
    ⟨unquoted_structIncludes struct, fun field hmem => ?_⟩
  exact unquoted_memberLine ((typeText_fieldType field.type).subset (by simp))
    (hwords.fields field hmem)

theorem isWord_of_mem_usedStructs (hwords : TableWords schema table) :
    ∀ name ∈ usedStructs schema table, IsWord name := by
  intro name hmem
  obtain ⟨column, hcolumn, huse⟩ := mem_usedStructs_iff.1 hmem
  obtain ⟨struct, hfound, -, -, rfl⟩ := usedStruct?_eq_some_iff.1 huse
  exact hwords.columnStructs column hcolumn struct hfound

theorem includeText_tableIncludes (hwords : TableWords schema table) :
    ∀ line ∈ tableIncludes schema table, IncludeText line := by
  have hown : ∀ name ∈ usedStructs schema table, IncludeText (includeOwn name) := fun name hmem =>
    includeText_own (isWord_of_mem_usedStructs hwords name hmem)
  have hsystem {cs : List Char} (hcs : cs.all (isPrintableNot ['\'', ':']) = true) :
      IncludeText (includeSystem (String.ofList cs)) := includeText_system (only_ofList hcs)
  unfold tableIncludes
  simp only [List.forall_mem_append, List.forall_mem_cons, List.not_mem_nil, forall_mem_linesIf,
    List.forall_mem_map, false_imp_iff, implies_true, and_true]
  exact ⟨⟨⟨⟨fun _ => hsystem rfl, hsystem rfl, hsystem rfl⟩, fun _ => hsystem rfl⟩,
    fun _ => only_ofList rfl⟩, hown⟩

theorem unquoted_tableIncludes (hwords : TableWords schema table) :
    ∀ line ∈ tableIncludes schema table, Unquoted line :=
  fun line hmem => (includeText_tableIncludes hwords line hmem).subset (by simp)

theorem unquoted_tableHeader {parts : List String} (hparts : ∀ part ∈ parts, IsWord part)
    (hwords : TableWords schema table) (hkey : key ∈ table.columns.toList) :
    ∀ line ∈ tableHeader parts schema table key, Unquoted line := by
  have htype := unquoted_columnType hwords hkey
  have hparameter := unquoted_keyParameter hwords hkey
  refine (headerProperty_unquoted.forall_mem_tableHeader hparts hwords).2
    ⟨unquoted_tableIncludes hwords, ?_, ?_, ?_, ?_⟩
  · intro struct hstruct field hfield
    exact unquoted_memberLine ((typeText_fieldType field.type).subset (by simp))
      ((hwords.localStructs struct hstruct).fields field hfield)
  · intro column hcolumn
    exact unquoted_memberLine (unquoted_columnType hwords hcolumn) (hwords.columns column hcolumn)
  · unfold rowTypes
    cases table.keyType <;> simp [htype] <;> and_intros <;> exact only_ofList rfl
  · unfold accessorDeclarations
    cases table.keyType <;> simp [hparameter] <;> and_intros <;> exact only_ofList rfl

/-! ## Functions of structs -/

theorem unquoted_constructor {name : String} {members : List String} (hname : Unquoted name)
    (hmembers : ∀ member ∈ members, Unquoted member) :
    ∀ line ∈ constructor name members, Unquoted line := by
  have hcomma (line : String) : Unquoted (line ++ ",") ↔ Unquoted line := by
    simpa using fun _ => only_ofList rfl
  have hinits : ∀ line ∈ commaEnded (members.map (· ++ "(0)")), Unquoted line := by
    rw [forall_mem_commaEnded hcomma, List.forall_mem_map]
    intro member hmem
    simpa [hmembers member hmem] using only_ofList rfl
  unfold constructor
  dsimp only
  rw [forall_mem_function]
  refine ⟨?_, only_ofList rfl, by simp, only_ofList rfl⟩
  split
  · exact List.forall_mem_singleton.2 hname
  · simp only [List.forall_mem_append, List.forall_mem_singleton, forall_mem_indent,
      unquoted_indentLine, only_append]
    exact ⟨⟨hname, only_ofList rfl⟩, hinits⟩

theorem printable_structParse (hwords : NamesWords struct) :
    ∀ line ∈ structParse struct, Printable line := by
  have hread (type : FieldType) : Printable (readField type) := by
    cases type <;> exact only_ofList rfl
  have hfields : ∀ field ∈ struct.fields.toList, ∀ line ∈
      block ("if (s." ++ readField field.type ++ "(&this->" ++ field.name ++ ") == false)")
        ["return false;"], Printable line := by
    intro field hmem
    simp [hread, (hwords.fields field hmem).printable]
    and_intros <;> exact only_ofList rfl
  unfold structParse
  dsimp only
  split
  · exact List.forall_mem_singleton.2 (only_ofList rfl)
  · rw [List.forall_mem_append, List.forall_mem_append, List.forall_mem_append,
      List.forall_mem_flatMap]
    refine ⟨⟨⟨?_, hfields⟩, ?_⟩, ?_⟩ <;> simp <;> and_intros <;> exact only_ofList rfl

section Sources

variable {P : String → Prop} (hindent : ∀ line, P (indentLine line) ↔ P line)
  (hunquoted : ∀ line, Unquoted line → P line)
include hindent hunquoted

theorem forall_mem_structFunctions (hwords : NamesWords struct)
    (howner : ∀ table, struct.owner = some table → IsWord table) :
    (∀ line ∈ structFunctions struct, P line) ↔ ∀ line ∈ structParse struct, P line := by
  have hname := unquoted_word hwords.name
  have hclass : Unquoted (className struct) := by
    unfold className
    split
    next table hsome =>
      simp only [only_append, unquoted_word (howner table hsome), hname, true_and, and_true]
      exact only_ofList rfl
    next => exact hname
  have hints : ∀ member ∈ (struct.fields.toList.filter (·.type = .int)).map (·.name),
      Unquoted member := by
    rw [List.forall_mem_map]
    exact fun field hmem => unquoted_word (hwords.fields field (List.mem_of_mem_filter hmem))
  have hconstructor : Unquoted (className struct ++ "::" ++ struct.name ++ "()") := by
    simp only [only_append, hclass, hname, true_and, and_true]
    exact ⟨only_ofList rfl, only_ofList rfl⟩
  have hconstructs : ∀ line ∈ constructor (className struct ++ "::" ++ struct.name ++ "()")
      ((struct.fields.toList.filter (·.type = .int)).map (·.name)), P line :=
    fun line hmem => hunquoted line (unquoted_constructor hconstructor hints line hmem)
  have hdestructor : P (className struct ++ "::~" ++ struct.name ++ "()") := by
    refine hunquoted _ ?_
    simp only [only_append, hclass, hname, true_and, and_true]
    exact ⟨only_ofList rfl, only_ofList rfl⟩
  have hparse : P ("bool " ++ className struct ++ "::parse(const std::string &text)") := by
    refine hunquoted _ ?_
    simp only [only_append, hclass, and_true]
    exact ⟨only_ofList rfl, only_ofList rfl⟩
  have hopens : P "\x7b" := hunquoted _ (only_ofList rfl)
  have hcloses : P "\x7d" := hunquoted _ (only_ofList rfl)
  simp only [structFunctions, forall_mem_spaced (hunquoted _ (only_ofList rfl) : P ""),
    List.forall_mem_cons, List.not_mem_nil, forall_mem_function, hindent, hdestructor, hparse,
    hopens, hcloses, false_imp_iff, implies_true, true_and, and_true]
  exact and_iff_right hconstructs

theorem forall_mem_structSource {parts : List String} (hparts : ∀ part ∈ parts, IsWord part)
    (hwords : NamesWords struct) (howner : ∀ table, struct.owner = some table → IsWord table) :
    (∀ line ∈ structSource parts struct, P line) ↔ ∀ line ∈ structParse struct, P line := by
  have hP := headerProperty_of_plain hindent fun _ hline => hunquoted _ (hline.subset (by simp))
  have hheading : ∀ line ∈ heading, P line := fun line hmem =>
    hP.ends line (List.mem_append_left _ hmem)
  have hown := hunquoted _ (unquoted_includeOwn hwords.name)
  have hsplitter : P (includeSystem "tablekit/column_splitter.h") :=
    hunquoted _ (unquoted_includeSystem (only_ofList rfl))
  have hblank : P "" := hunquoted _ (only_ofList rfl)
  simp only [structSource, List.forall_mem_append, List.forall_mem_cons, List.not_mem_nil,
    hP.forall_mem_inNamespace hparts, forall_mem_structFunctions hindent hunquoted hwords howner,
    hown, hsplitter, hblank, false_imp_iff, implies_true, and_true]
  exact and_iff_right hheading

end Sources

/-! ## Sources of tables -/

theorem unquoted_readHeadLine {which : String} (hwhich : Unquoted which) :
    ∀ line ∈ readHeadLine which, Unquoted line := by
  unfold readHeadLine
  simp only [List.forall_mem_append, List.forall_mem_cons, List.not_mem_nil, forall_mem_block,
    forall_mem_failWith, unquoted_indentLine, only_append, hwhich, false_imp_iff,
    implies_true, and_true]
  and_intros <;> exact only_ofList rfl

theorem unquoted_dataLoop {body : Lines} (hbody : ∀ line ∈ body, Unquoted line) :
    ∀ line ∈ dataLoop body, Unquoted line := by
  unfold dataLoop
  simp only [List.forall_mem_append, List.forall_mem_cons, List.not_mem_nil, forall_mem_block,
    forall_mem_failWith, unquoted_indentLine, String.reduceAppend, false_imp_iff, implies_true,
    and_true]
  and_intros <;> first | exact hbody | exact only_ofList rfl

theorem unquoted_keyIsEmpty (table : Table) : Unquoted (keyIsEmpty table) := by
  unfold keyIsEmpty
  simp
  and_intros <;> exact only_ofList rfl

section Columns

variable (hname : IsWord column.name)
include hname

theorem unquoted_nameCheck : ∀ line ∈ nameCheck column, Unquoted line := by
  unfold nameCheck
  simp only [List.forall_mem_singleton, forall_mem_block, forall_mem_failWith,
    unquoted_indentLine, only_append, unquoted_word hname, and_true]
  and_intros <;> exact only_ofList rfl

theorem unquoted_failEmptyKey : ∀ line ∈ failEmptyKey column, Unquoted line := by
  unfold failEmptyKey
  simp only [List.forall_mem_singleton, forall_mem_failWith, unquoted_indentLine,
    only_append, unquoted_word hname, and_true]
  and_intros <;> exact only_ofList rfl

theorem unquoted_failDuplicateKey : ∀ line ∈ failDuplicateKey column, Unquoted line := by
  unfold failDuplicateKey
  split
  next format value hkind =>
    have hkind : Unquoted format ∧ Unquoted value := by
      split at hkind <;> cases hkind <;> simp only [only_append, unquoted_word hname, and_true] <;>
        and_intros <;> exact only_ofList rfl
    simp only [List.forall_mem_singleton, forall_mem_failWith, unquoted_indentLine,
      only_append, unquoted_word hname, hkind, and_true]
    and_intros <;> exact only_ofList rfl

theorem unquoted_readCell : ∀ line ∈ readCell column, Unquoted line := by
  unfold readCell
  dsimp only
  split <;>
    simp only [List.forall_mem_singleton, forall_mem_block, forall_mem_failWith,
      unquoted_indentLine, only_append, unquoted_word hname, and_true] <;>
    and_intros <;> exact only_ofList rfl

end Columns

section Table

variable (hcolumns : ∀ column ∈ table.columns.toList, IsWord column.name)
include hcolumns

theorem unquoted_readNameLine : ∀ line ∈ readNameLine table, Unquoted line := by
  have hhead := unquoted_readHeadLine (only_ofList rfl : Unquoted "name")
  have hchecks : ∀ column ∈ table.columns.toList, ∀ line ∈ nameCheck column, Unquoted line :=
    fun column hmem => unquoted_nameCheck (hcolumns column hmem)
  unfold readNameLine
  simp only [List.forall_mem_append, List.forall_mem_cons, List.not_mem_nil,
    List.forall_mem_flatMap, forall_mem_indent, unquoted_indentLine, false_imp_iff, implies_true,
    and_true]
  and_intros <;> first | exact hhead | exact hchecks | exact only_ofList rfl

theorem unquoted_readRow : ∀ line ∈ readRow table, Unquoted line := by
  have hcells : ∀ column ∈ table.columns.toList, ∀ line ∈ readCell column, Unquoted line :=
    fun column hmem => unquoted_readCell (hcolumns column hmem)
  unfold readRow
  simp only [List.forall_mem_append, List.forall_mem_cons, List.not_mem_nil,
    List.forall_mem_flatMap, false_imp_iff, implies_true, and_true]
  and_intros <;> first | exact hcells | exact only_ofList rfl

theorem unquoted_readSingleRows (hkey : key ∈ table.columns.toList) :
    ∀ line ∈ readSingleRows table key, Unquoted line := by
  have hname := unquoted_word (hcolumns key hkey)
  have hrow := unquoted_readRow hcolumns
  have hempty := unquoted_failEmptyKey (hcolumns key hkey)
  have hduplicate := unquoted_failDuplicateKey (hcolumns key hkey)
  unfold readSingleRows
  simp only [List.forall_mem_append, List.forall_mem_cons, List.not_mem_nil, false_imp_iff,
    implies_true, and_true]
  refine ⟨⟨⟨only_ofList rfl, only_ofList rfl⟩, unquoted_dataLoop ?_⟩,
    only_ofList rfl⟩
  simp only [List.forall_mem_append, List.forall_mem_cons, List.not_mem_nil, forall_mem_block,
    unquoted_indentLine, only_append, unquoted_keyIsEmpty, hname, false_imp_iff,
    implies_true, and_true]
  and_intros <;> first | with_reducible assumption | exact only_ofList rfl

theorem unquoted_readRowSets (hkey : key ∈ table.columns.toList) :
    ∀ line ∈ readRowSets table key, Unquoted line := by
  have hname := unquoted_word (hcolumns key hkey)
  have hrow := unquoted_readRow hcolumns
  have hempty := unquoted_failEmptyKey (hcolumns key hkey)
  have hduplicate := unquoted_failDuplicateKey (hcolumns key hkey)
  have hlast : Unquoted
      (if key.type = .int then "int32_t last_key = 0;" else "std::string last_key;") := by
    split <;> exact only_ofList rfl
  unfold readRowSets
  simp only [List.forall_mem_append, List.forall_mem_cons, List.not_mem_nil, false_imp_iff,
    implies_true, and_true]
  refine ⟨⟨⟨only_ofList rfl, only_ofList rfl, hlast, only_ofList rfl⟩,
    unquoted_dataLoop ?_⟩, only_ofList rfl⟩
  simp only [List.forall_mem_append, List.forall_mem_cons, List.not_mem_nil, forall_mem_block,
    forall_mem_blockElse, unquoted_indentLine, only_append, unquoted_keyIsEmpty, hname,
    false_imp_iff, implies_true, and_true]
  and_intros <;> first | with_reducible assumption | exact only_ofList rfl

theorem unquoted_parseFunction (hname : IsWord table.name) (hkey : key ∈ table.columns.toList) :
    ∀ line ∈ parseFunction table key, Unquoted line := by
  have hsingle := unquoted_readSingleRows hcolumns hkey
  have hsets := unquoted_readRowSets hcolumns hkey
  have hcomment := unquoted_readHeadLine (only_ofList rfl : Unquoted "comment")
  have hnames := unquoted_readNameLine hcolumns
  unfold parseFunction
  cases table.keyType <;>
    simp only [forall_mem_function, forall_mem_spaced (only_ofList rfl : Unquoted ""),
      List.forall_mem_append, List.forall_mem_cons, List.not_mem_nil, unquoted_indentLine,
      only_append, unquoted_word hname, Nat.toString_eq_repr, unquoted_repr, false_imp_iff,
      implies_true, and_true] <;>
    and_intros <;> first | with_reducible assumption | exact only_ofList rfl

end Table

section Table

variable (hwords : TableWords schema table) (hkey : key ∈ table.columns.toList)
include hwords hkey

theorem unquoted_accessor : ∀ line ∈ accessor schema table key, Unquoted line := by
  have hname := unquoted_word hwords.name
  have hparameter := unquoted_keyParameter hwords hkey
  unfold accessor
  cases table.keyType <;>
    simp only [forall_mem_function, forall_mem_block, List.forall_mem_append,
      List.forall_mem_cons, List.not_mem_nil, unquoted_indentLine, only_append, hname,
      hparameter, false_imp_iff, implies_true, and_true] <;>
    and_intros <;> exact only_ofList rfl

theorem unquoted_tableFunctions :
    ∀ group ∈ tableFunctions schema table key, ∀ line ∈ group, Unquoted line := by
  have hname := unquoted_word hwords.name
  have hints : ∀ member ∈ (table.columns.toList.filter (·.type = .int)).map (·.name),
      Unquoted member := by
    rw [List.forall_mem_map]
    exact fun column hmem => unquoted_word (hwords.columns column (List.mem_of_mem_filter hmem))
  have hconstructor : Unquoted (table.name ++ "::Row::Row()") := by
    simpa [hname] using only_ofList rfl
  have hparse := unquoted_parseFunction hwords.columns hwords.name hkey
  have haccessor := unquoted_accessor hwords hkey
  unfold tableFunctions
  simp only [List.forall_mem_cons, List.not_mem_nil, forall_mem_function, only_append, hname,
    false_imp_iff, implies_true, true_and, and_true]
  refine ⟨unquoted_constructor hconstructor hints, ?_⟩
  and_intros <;> first | exact hparse | exact haccessor | exact only_ofList rfl

/-- What all lines without an apostrophe have holds of the whole source of a table just if it holds
of how its structs are read from cells. -/
theorem forall_mem_tableSource {P : String → Prop} (hindent : ∀ line, P (indentLine line) ↔ P line)
    (hunquoted : ∀ line, Unquoted line → P line) {parts : List String}
    (hparts : ∀ part ∈ parts, IsWord part) :
    (∀ line ∈ tableSource parts schema table key, P line) ↔
      ∀ struct ∈ table.localStructs.toList, ∀ line ∈ structParse struct, P line := by
  have hP := headerProperty_of_plain hindent fun _ hline => hunquoted _ (hline.subset (by simp))
  have hsystem {cs : List Char} (hcs : cs.all (isPrintableNot ['\'', ':']) = true) :
      Unquoted (includeSystem (String.ofList cs)) := unquoted_includeSystem (only_ofList hcs)
  have hincludes : ∀ line ∈ sourceIncludes table, Unquoted line := by
    unfold sourceIncludes
    simp only [List.forall_mem_append, List.forall_mem_cons, List.not_mem_nil, forall_mem_linesIf,
      false_imp_iff, implies_true, and_true]
    exact ⟨⟨⟨unquoted_includeOwn hwords.name, only_ofList rfl, hsystem rfl,
      only_ofList rfl⟩, fun _ => hsystem rfl⟩, hsystem rfl, hsystem rfl⟩
  have hheading : ∀ line ∈ heading, P line := fun line hmem =>
    hP.ends line (List.mem_append_left _ hmem)
  have hfunctions : ∀ group ∈ tableFunctions schema table key, ∀ line ∈ group, P line :=
    fun group hgroup line hmem =>
      hunquoted line (unquoted_tableFunctions hwords hkey group hgroup line hmem)
  have hstructs : (∀ struct ∈ table.localStructs.toList, ∀ line ∈ structFunctions struct, P line) ↔
      ∀ struct ∈ table.localStructs.toList, ∀ line ∈ structParse struct, P line :=
    forall₂_congr fun struct hmem => forall_mem_structFunctions hindent hunquoted
      (hwords.localStructs struct hmem) (hwords.owners struct hmem)
  have hblank : P "" := hunquoted _ (only_ofList rfl)
  simp only [tableSource, List.forall_mem_append, List.forall_mem_singleton,
    hP.forall_mem_inNamespace hparts, forall_mem_spaced hblank, List.forall_mem_map, hstructs,
    hblank, and_true]
  exact ⟨fun h => h.2.1, fun h =>
    ⟨⟨hheading, fun line hmem => hunquoted line (hincludes line hmem)⟩, h, hfunctions⟩⟩

end Table

/-! ## Printable sources -/

theorem printable_structSource {parts : List String} (hparts : ∀ part ∈ parts, IsWord part)
    (hwords : NamesWords struct) (howner : ∀ table, struct.owner = some table → IsWord table) :
    ∀ line ∈ structSource parts struct, Printable line :=
  (forall_mem_structSource (fun _ => printable_indentLine) (fun _ hline => hline.printable) hparts
    hwords howner).2 (printable_structParse hwords)

theorem printable_tableSource (hwords : TableWords schema table)
    (hkey : key ∈ table.columns.toList) {parts : List String}
    (hparts : ∀ part ∈ parts, IsWord part) :
    ∀ line ∈ tableSource parts schema table key, Printable line :=
  (forall_mem_tableSource hwords hkey (fun _ => printable_indentLine)
    (fun _ hline => hline.printable) hparts).2 fun struct hmem =>
      printable_structParse (hwords.localStructs struct hmem)

end TableSchema.Generate.Cpp
