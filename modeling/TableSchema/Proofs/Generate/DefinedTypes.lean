import Mathlib.Data.List.Nodup
import TableSchema.Generate.RustEmission
import TableSchema.Proofs.Generate.Scopes
import TableSchema.Proofs.Pipeline

/-!
# Types that modules define

The module of a struct defines one type. The module of a table defines the types of its structs, of
its rows and of the table, all in one scope. When no two of them have the same name, and no two
fields of a type do, depends on the names before they are escaped: a name that is a word of the
language meets the name that has an underscore after it.
-/

namespace TableSchema

open Generate

namespace Generate.Rust

/-! ## Escaped names -/

/-- A word of the language is among the names, and also the name that it is given in its place. -/
def MeetsWord (names : List String) : Prop :=
  ∃ word ∈ keywords, word ∈ names ∧ word ++ "_" ∈ names

instance (names : List String) : Decidable (MeetsWord names) :=
  inferInstanceAs (Decidable (∃ word ∈ keywords, word ∈ names ∧ word ++ "_" ∈ names))

theorem escape_of_mem {name : String} (hword : name ∈ keywords) : escape name = name ++ "_" := by
  rw [escape, if_pos (List.contains_iff_mem.2 hword)]

theorem escape_of_not_mem {name : String} (hname : name ∉ keywords) : escape name = name := by
  rw [escape, if_neg (fun h => hname (List.contains_iff_mem.1 h))]

theorem underscore_not_mem_keywords : ∀ word ∈ keywords, word ++ "_" ∉ keywords := by
  decide +kernel

theorem isWord_escape {name : String} (hname : IsWord name) : IsWord (escape name) := by
  unfold escape
  split
  · exact hname.append (by decide)
  · exact hname

/-- Names are distinct after they are escaped if they are before and none of them is taken for a
word. -/
theorem nodup_map_escape_iff {names : List String} :
    (names.map escape).Nodup ↔ names.Nodup ∧ ¬ MeetsWord names := by
  constructor
  · intro hescaped
    refine ⟨hescaped.of_map, ?_⟩
    rintro ⟨word, hword, hmem, hother⟩
    have hsame : escape word = escape (word ++ "_") := by
      rw [escape_of_mem hword, escape_of_not_mem (underscore_not_mem_keywords word hword)]
    have heq := List.inj_on_of_nodup_map hescaped hmem hother hsame
    simpa using congrArg String.length heq
  · rintro ⟨hnodup, hnot⟩
    refine hnodup.map_on fun name hname other hother hsame => ?_
    by_cases hword : name ∈ keywords <;> by_cases hotherWord : other ∈ keywords
    · rw [escape_of_mem hword, escape_of_mem hotherWord] at hsame
      exact String.append_left_inj _ |>.1 hsame
    · rw [escape_of_mem hword, escape_of_not_mem hotherWord] at hsame
      exact absurd ⟨name, hword, hname, hsame ▸ hother⟩ hnot
    · rw [escape_of_not_mem hword, escape_of_mem hotherWord] at hsame
      exact absurd ⟨other, hotherWord, hother, hsame ▸ hname⟩ hnot
    · rwa [escape_of_not_mem hword, escape_of_not_mem hotherWord] at hsame

/-! ## Definitions in lines -/

/-- A type that is defined in a module, with the names of its fields. -/
structure Definition where
  name : String
  fields : List String
deriving DecidableEq, Repr

def definedName? (line : String) : Option String :=
  (identifierAfter "pub struct " line).or (identifierAfter "pub type " line)

def fieldName? (line : String) : Option String :=
  (identifierAfter "    pub " line).or (identifierAfter "    " line)

def opensBlock (line : String) : Bool :=
  line.toList.getLast? = some '\x7b'

/-- The types that the lines of a module define, in their order. The fields of a type stand in the
block that its line opens. -/
def definitions : Lines → List Definition
  | [] => []
  | line :: rest =>
      match definedName? line with
      | none => definitions rest
      | some name =>
          let body := if opensBlock line then rest.takeWhile (· ≠ "\x7d") else []
          ⟨name, body.filterMap fieldName?⟩ :: definitions rest

/-- Lines that define certain types, whatever follows them. -/
def Defines (lines : Lines) (found : List Definition) : Prop :=
  ∀ rest, definitions (lines ++ rest) = found ++ definitions rest

theorem Defines.append {lines others : Lines} {found more : List Definition}
    (hlines : Defines lines found) (hothers : Defines others more) :
    Defines (lines ++ others) (found ++ more) :=
  Finds.append hlines hothers

theorem Defines.definitions_eq {lines : Lines} {found : List Definition}
    (hlines : Defines lines found) : definitions lines = found :=
  Finds.read_eq hlines rfl

theorem definitions_cons_of_none {line : String} (hline : definedName? line = none)
    (rest : Lines) : definitions (line :: rest) = definitions rest := by
  rw [definitions, hline]

theorem defines_nothing {lines : Lines} (hlines : ∀ line ∈ lines, definedName? line = none) :
    Defines lines [] :=
  finds_nothing (fun _ => definitions_cons_of_none) hlines

theorem defines_blank : Defines [""] [] :=
  defines_nothing (by decide)

theorem definedName?_indentLine (line : String) : definedName? (indentLine line) = none := by
  rw [definedName?, identifierAfter_indentLine_of_head (c := 'p') (by decide) (by decide),
    identifierAfter_indentLine_of_head (c := 'p') (by decide) (by decide), Option.or_none]

theorem defines_indent (lines : Lines) : Defines (indent lines) [] := by
  refine defines_nothing fun line hmem => ?_
  obtain ⟨inner, -, rfl⟩ := List.mem_map.1 hmem
  exact definedName?_indentLine inner

theorem definedName?_of_start {start : String}
    (hstruct : ¬ "pub struct ".toList <+: start.toList ∧ ¬ start.toList <+: "pub struct ".toList)
    (htype : ¬ "pub type ".toList <+: start.toList ∧ ¬ start.toList <+: "pub type ".toList)
    (rest : String) : definedName? (start ++ rest) = none := by
  rw [definedName?, identifierAfter_of_start hstruct, identifierAfter_of_start htype,
    Option.or_none]

theorem definedName?_struct {name rest : String} (hname : IsWord name)
    (hrest : rest.toList.head?.any isIdentifierPart = false) :
    definedName? ("pub struct " ++ name ++ rest) = some name := by
  rw [definedName?, identifierAfter_append hname hrest, Option.some_or]

theorem definedName?_type {name rest : String} (hname : IsWord name)
    (hrest : rest.toList.head?.any isIdentifierPart = false) :
    definedName? ("pub type " ++ name ++ rest) = some name := by
  rw [definedName?, identifierAfter_append hname hrest, String.append_assoc,
    identifierAfter_of_start (by decide), Option.none_or]

/-- A block whose head defines a type has its fields. -/
theorem defines_block {head name : String} (hhead : definedName? (head ++ " \x7b") = some name)
    (body : Lines) :
    Defines (block head body)
      [⟨name, body.filterMap fun line => fieldName? (indentLine line)⟩] := by
  intro rest
  have hopens : opensBlock (head ++ " \x7b") = true := by simp [opensBlock]
  have hrest : definitions (indent body ++ "\x7d" :: rest) = definitions rest := by
    rw [defines_indent, List.nil_append, definitions_cons_of_none (by decide)]
  have hlines : block head body ++ rest =
      (head ++ " \x7b") :: (indent body ++ "\x7d" :: rest) := by
    simp [block, blockWith]
  rw [hlines, definitions, hhead]
  dsimp only
  rw [hopens, if_pos rfl, takeWhile_indent, hrest, indent, List.filterMap_map]
  rfl

theorem opensBlock_append (start : String) {last : String} (hlast : last ≠ "") :
    opensBlock (start ++ last) = opensBlock last := by
  have hchars : last.toList ≠ [] := by simpa using hlast
  rw [opensBlock, opensBlock, String.toList_append, List.getLast?_append,
    List.getLast?_eq_getLast_of_ne_nil hchars, Option.some_or]

/-- A line that defines a type without a block. -/
theorem defines_line {line name : String} (hline : definedName? line = some name)
    (hopens : opensBlock line = false) : Defines [line] [⟨name, []⟩] := by
  intro rest
  rw [List.singleton_append, definitions, hline]
  dsimp only
  rw [hopens]
  rfl

theorem defines_impl (name : String) (body : Lines) :
    Defines (block ("impl " ++ name) body) [] := by
  have hhead : Defines ["impl " ++ name ++ " \x7b"] [] := by
    refine defines_nothing fun line hmem => ?_
    rw [List.mem_singleton.1 hmem, String.append_assoc]
    exact definedName?_of_start (by decide) (by decide) _
  have hend : Defines ["\x7d" ++ ""] [] := defines_nothing (by decide)
  exact (hhead.append (defines_indent body)).append hend

theorem defines_spaced {groups : List Lines} {found : List (List Definition)}
    (hgroups : List.Forall₂ Defines groups found) : Defines (spaced groups) found.flatten :=
  finds_spaced defines_blank hgroups

/-- Fields are found under their escaped names. -/
theorem fieldNames_pub {α : Type} {entries : List α} {name : α → String} (type : α → String)
    (hnames : ∀ entry ∈ entries, IsWord (name entry)) :
    ((entries.map fun entry => "pub " ++ escape (name entry) ++ ": " ++ type entry ++ ",").filterMap
      fun line => fieldName? (indentLine line)) = entries.map fun entry => escape (name entry) := by
  rw [List.filterMap_map, List.filterMap_eq_map_iff_forall_eq_some]
  intro entry hmem
  have hfound : identifierAfter "pub "
      ("pub " ++ escape (name entry) ++ (": " ++ (type entry ++ ","))) =
        some (escape (name entry)) :=
    identifierAfter_append (isWord_escape (hnames entry hmem))
      (head?_append_any (by decide) (by decide) _)
  rw [← String.append_assoc, ← String.append_assoc] at hfound
  have hindented := identifierAfter_indentLine (by decide : "pub " ≠ "")
    ("pub " ++ escape (name entry) ++ ": " ++ type entry ++ ",")
  rw [Function.comp_apply, fieldName?, show "    pub " = "    " ++ "pub " from rfl, hindented,
    hfound, Option.some_or]

/-! ## Modules -/

def structDefinitionOf (struct : Struct) : Definition :=
  ⟨escape struct.name, struct.fields.names.map escape⟩

/-- The types of the rows of a table, of which only the first has fields. -/
def rowDefinitionsOf (table : Table) : List Definition :=
  ⟨"Row", table.columns.names.map escape⟩ ::
    table.keyType.rowTypeNames.tail.map fun name => ⟨name, []⟩

def tableDefinitionOf (table : Table) : Definition :=
  ⟨escape table.name, match table.keyType with | .single => ["rows"] | .set => ["row_sets"]⟩

/-- A struct with names that can stand in code. -/
structure NamesWords (struct : Struct) : Prop where
  name : IsWord struct.name
  fields : ∀ field ∈ struct.fields.toList, IsWord field.name

theorem defines_structDefinition {struct : Struct} (hwords : NamesWords struct) :
    Defines (structDefinition struct) [structDefinitionOf struct] := by
  have hderive : Defines ["#[derive(Debug, Clone, PartialEq, Eq, Default)]"] [] :=
    defines_nothing (by decide)
  have hname := isWord_escape hwords.name
  have hhead : definedName? ("pub struct " ++ escape struct.name ++ " \x7b") =
      some (escape struct.name) := definedName?_struct hname (by decide)
  refine hderive.append ?_
  have hfields := fieldNames_pub (fun field => fieldType field.type) hwords.fields
  split
  next hempty =>
    have hline : definedName? ("pub struct " ++ escape struct.name ++ " \x7b\x7d") =
        some (escape struct.name) := definedName?_struct hname (by decide)
    have hnone : struct.fields.names = [] := by
      simpa [Catalog.names] using hempty
    rw [structDefinitionOf, hnone]
    exact defines_line hline ((opensBlock_append _ (by decide)).trans (by decide))
  next =>
    have hblock := defines_block hhead (struct.fields.toList.map fun field =>
      "pub " ++ escape field.name ++ ": " ++ fieldType field.type ++ ",")
    rw [hfields] at hblock
    rw [structDefinitionOf, Catalog.names, List.map_map]
    exact hblock

theorem defines_structItems {struct : Struct} (hwords : NamesWords struct) :
    Defines (structItems struct) [structDefinitionOf struct] := by
  have himpl := defines_impl ("ParseValue for " ++ escape struct.name) (structParse struct)
  rw [← String.append_assoc] at himpl
  exact ((defines_structDefinition hwords).append defines_blank).append himpl

theorem defines_heading : Defines heading [] :=
  defines_nothing (by decide +kernel)

theorem definitions_structModule {struct : Struct} (hwords : NamesWords struct) :
    definitions (structModule struct) = [structDefinitionOf struct] := by
  have himports : Defines (structImports struct) [] := by
    unfold structImports
    split
    · exact defines_nothing (by decide +kernel)
    · exact defines_nothing (by decide +kernel)
  have hhead := (defines_heading.append himports).append defines_blank
  exact (hhead.append (defines_structItems hwords)).definitions_eq

section Table

variable (schema : Schema) {table : Table} (key : Column)

theorem defines_rowDefinition (hcolumns : ∀ column ∈ table.columns.toList, IsWord column.name) :
    Defines (rowDefinition schema table) [⟨"Row", table.columns.names.map escape⟩] := by
  have hderive : Defines ["#[derive(Debug, Clone, PartialEq, Default)]"] [] :=
    defines_nothing (by decide)
  have hblock := defines_block (by decide : definedName? ("pub struct Row" ++ " \x7b") = some "Row")
    (table.columns.toList.map fun column =>
      "pub " ++ escape column.name ++ ": " ++ columnType schema table column ++ ",")
  rw [fieldNames_pub (columnType schema table) hcolumns] at hblock
  rw [Catalog.names, List.map_map]
  exact hderive.append hblock

/-- A type of rows by the type of their keys. -/
theorem defines_map {name rest : String} (hname : IsWord name) (hne : rest ≠ "")
    (hopens : opensBlock rest = false) (keyType : String) :
    Defines ["pub type " ++ name ++ " = BTreeMap<" ++ keyType ++ rest] [⟨name, []⟩] := by
  have hline := definedName?_type hname
    (head?_append_any (by decide : " = BTreeMap<".toList.head?.any isIdentifierPart = false)
      (by decide) (keyType ++ rest))
  rw [← String.append_assoc, ← String.append_assoc] at hline
  exact defines_line hline ((opensBlock_append _ hne).trans hopens)

theorem defines_rowTypes :
    Defines (rowTypes schema table key)
      (table.keyType.rowTypeNames.tail.map fun name => ⟨name, []⟩) := by
  unfold rowTypes
  cases table.keyType with
  | single =>
      have hrows : "pub type Rows = BTreeMap<" = "pub type " ++ "Rows" ++ " = BTreeMap<" := rfl
      dsimp only
      rw [hrows]
      exact defines_map (by decide) (by decide) (by decide) _
  | set =>
      have hset : Defines ["pub type RowSet = Vec<Row>;"] [⟨"RowSet", []⟩] :=
        defines_line (by decide) (by decide)
      have hsets : "pub type RowSets = BTreeMap<" = "pub type " ++ "RowSets" ++ " = BTreeMap<" :=
        rfl
      dsimp only
      rw [hsets]
      exact hset.append (defines_map (by decide) (by decide) (by decide) _)

theorem defines_tableDefinition (hname : IsWord table.name) :
    Defines (tableDefinition table) [tableDefinitionOf table] := by
  have hderive : Defines ["#[derive(Debug, Clone, Default)]"] [] := defines_nothing (by decide)
  have hhead : definedName? ("pub struct " ++ escape table.name ++ " \x7b") =
      some (escape table.name) := definedName?_struct (isWord_escape hname) (by decide)
  have hblock := defines_block hhead [rowsMember table]
  have hmember : [rowsMember table].filterMap (fun line => fieldName? (indentLine line)) =
      match table.keyType with
      | .single => ["rows"]
      | .set => ["row_sets"] := by
    unfold rowsMember
    cases table.keyType with
    | single => decide
    | set => decide
  rw [hmember] at hblock
  exact hderive.append hblock

theorem defines_tableImports (table : Table) :
    Defines (heading ++ ["use std::collections::BTreeMap;",
      "use tablekit_runtime::\x7b" ++ joined ", " (runtimeImports table) ++ "\x7d;", ""]) [] := by
  have huse : definedName? ("use tablekit_runtime::\x7b" ++ joined ", " (runtimeImports table) ++
      "\x7d;") = none := by
    rw [String.append_assoc]
    exact definedName?_of_start (by decide) (by decide) _
  refine defines_heading.append (defines_nothing ?_)
  simp only [List.forall_mem_cons, huse]
  decide +kernel

theorem defines_rowItems (hcolumns : ∀ column ∈ table.columns.toList, IsWord column.name) :
    Defines (rowDefinition schema table ++ [""] ++ rowTypes schema table key)
      (rowDefinitionsOf table) :=
  ((defines_rowDefinition schema hcolumns).append defines_blank).append
    (defines_rowTypes schema key)

/-- The types that the module of a table defines. -/
theorem definitions_tableModule (hname : IsWord table.name)
    (hcolumns : ∀ column ∈ table.columns.toList, IsWord column.name)
    (hstructs : ∀ struct ∈ table.localStructs.toList, NamesWords struct) :
    definitions (tableModule schema table key) =
      table.localStructs.toList.map structDefinitionOf ++
        (rowDefinitionsOf table ++ [tableDefinitionOf table]) := by
  have hfunctions : Defines (tableFunctions schema table key) [] := defines_impl _ _
  have hgroups : List.Forall₂ Defines
      (table.localStructs.toList.map structItems ++
        [rowDefinition schema table ++ [""] ++ rowTypes schema table key, tableDefinition table,
          tableFunctions schema table key])
      (table.localStructs.toList.map (fun struct => [structDefinitionOf struct]) ++
        [rowDefinitionsOf table, [tableDefinitionOf table], []]) := by
    refine List.rel_append ?_ ?_
    · rw [List.forall₂_map_left_iff, List.forall₂_map_right_iff, List.forall₂_same]
      exact fun struct hmem => defines_structItems (hstructs struct hmem)
    · exact .cons (defines_rowItems schema key hcolumns)
        (.cons (defines_tableDefinition hname) (.cons hfunctions .nil))
  have hall := ((defines_tableImports table).append (defines_spaced hgroups)).definitions_eq
  rw [tableModule, hall, List.nil_append, List.flatten_append, ← List.flatMap_def,
    ← List.map_eq_flatMap]
  rfl

end Table

/-! ## Names that meet -/

/-- No two types that lines define have the same name, and no two fields of such a type. -/
structure DefinesApart (lines : Lines) : Prop where
  types : ((definitions lines).map Definition.name).Nodup
  fields : ∀ definition ∈ definitions lines, definition.fields.Nodup

theorem rowTypeNames_apart (keyType : KeyType) :
    ∀ name ∈ keyType.rowTypeNames, ∀ word ∈ keywords, name ≠ word ∧ name ≠ word ++ "_" := by
  cases keyType with
  | single => decide +kernel
  | set => decide +kernel

/-- The types of rows are not called as words are, whether with an underscore or without. -/
theorem meetsWord_rowTypeNames_iff (keyType : KeyType) {names others : List String} :
    MeetsWord (names ++ keyType.rowTypeNames ++ others) ↔ MeetsWord (names ++ others) := by
  have hapart {word : String} (hword : word ∈ keywords) :
      word ∉ keyType.rowTypeNames ∧ word ++ "_" ∉ keyType.rowTypeNames :=
    ⟨fun hmem => (rowTypeNames_apart keyType _ hmem word hword).1 rfl,
      fun hmem => (rowTypeNames_apart keyType _ hmem word hword).2 rfl⟩
  unfold MeetsWord
  refine exists_congr fun word => and_congr_right fun hword => ?_
  simp [hapart hword]

theorem map_name_rowDefinitionsOf (table : Table) :
    (rowDefinitionsOf table).map Definition.name = table.keyType.rowTypeNames.map escape := by
  unfold rowDefinitionsOf
  cases table.keyType with
  | single =>
      show ["Row", "Rows"] = _
      decide
  | set =>
      show ["Row", "RowSet", "RowSets"] = _
      decide

theorem definesApart_structModule_iff {struct : Struct} (hwords : NamesWords struct)
    (hfields : struct.fields.names.Nodup) :
    DefinesApart (structModule struct) ↔ ¬ MeetsWord struct.fields.names := by
  have hfound := definitions_structModule hwords
  constructor
  · intro happart
    have hescaped := happart.fields (structDefinitionOf struct) (by simp [hfound])
    exact (nodup_map_escape_iff.1 hescaped).2
  · intro hnot
    have hescaped := nodup_map_escape_iff.2 ⟨hfields, hnot⟩
    constructor
    · simp [hfound]
    · rw [hfound, List.forall_mem_singleton]
      exact hescaped

section Table

variable {table : Table} {found : List Definition}
  (hfound : found = table.localStructs.toList.map structDefinitionOf ++
    (rowDefinitionsOf table ++ [tableDefinitionOf table]))
include hfound

theorem map_name_tableModule : found.map Definition.name =
    (table.localStructs.names ++ table.keyType.rowTypeNames ++ [table.name]).map escape := by
  have hstructs : (table.localStructs.toList.map structDefinitionOf).map Definition.name =
      table.localStructs.names.map escape := by
    rw [Catalog.names, List.map_map, List.map_map]
    rfl
  rw [hfound, List.map_append, List.map_append, hstructs, map_name_rowDefinitionsOf,
    ← List.append_assoc, List.map_append, List.map_append]
  rfl

/-- The fields of the types of a module are distinct if no word meets the fields of a struct or the
columns. -/
theorem nodup_fields_iff
    (hstructs : ∀ struct ∈ table.localStructs.toList, struct.fields.names.Nodup)
    (hcolumns : table.columns.names.Nodup) :
    (∀ definition ∈ found, definition.fields.Nodup) ↔
      (∀ struct ∈ table.localStructs.toList, ¬ MeetsWord struct.fields.names) ∧
        ¬ MeetsWord table.columns.names := by
  have htable : (tableDefinitionOf table).fields.Nodup := by
    unfold tableDefinitionOf
    cases table.keyType with
    | single => exact List.nodup_singleton _
    | set => exact List.nodup_singleton _
  have hrows : (∀ definition ∈ rowDefinitionsOf table, definition.fields.Nodup) ↔
      ¬ MeetsWord table.columns.names := by
    rw [rowDefinitionsOf, List.forall_mem_cons, nodup_map_escape_iff, List.forall_mem_map]
    simp [hcolumns]
  have hlocals : (∀ definition ∈ table.localStructs.toList.map structDefinitionOf,
      definition.fields.Nodup) ↔
        ∀ struct ∈ table.localStructs.toList, ¬ MeetsWord struct.fields.names := by
    rw [List.forall_mem_map]
    refine forall₂_congr fun struct hmem => ?_
    exact nodup_map_escape_iff.trans (and_iff_right (hstructs struct hmem))
  rw [hfound, List.forall_mem_append, List.forall_mem_append, List.forall_mem_singleton, hlocals,
    hrows, and_iff_left htable]

end Table

end Generate.Rust

open Generate.Rust

theorem Schema.WellFormed.namesWords {schema : Schema} (hwell : schema.WellFormed)
    {struct : Struct} (hmem : struct ∈ schema.globalStructs.toList) : NamesWords struct where
  name := isWord_of_identifier <| hwell.globalNames.identifiers _ <|
    List.mem_append_left _ (List.mem_map_of_mem hmem)
  fields := isWord_of_properNames (hwell.globalStructs struct hmem).fields

theorem Table.WellFormed.namesWords {schema : Schema} {table : Table}
    (hwell : table.WellFormed schema) {struct : Struct}
    (hmem : struct ∈ table.localStructs.toList) : NamesWords struct where
  name := isWord_of_properNames hwell.localStructNames struct hmem
  fields := isWord_of_properNames (hwell.localStructs struct hmem).fields

theorem Schema.WellFormed.definitions_tableModule {schema : Schema} (hwell : schema.WellFormed)
    {table : Table} (htable : table ∈ schema.tables.toList) (key : Column) :
    definitions (tableModule schema table key) =
      table.localStructs.toList.map structDefinitionOf ++
        (rowDefinitionsOf table ++ [tableDefinitionOf table]) :=
  have htableWell := hwell.tables table htable
  Generate.Rust.definitions_tableModule schema key (isWord_tableName hwell htable)
    (isWord_of_properNames htableWell.columnNames) fun _ hmem => htableWell.namesWords hmem

/-- The module of a table defines types and fields with different names just if the table is not
called as one of its structs or as its rows, and no name meets a word of the language. -/
theorem Schema.WellFormed.definesApart_tableModule_iff {schema : Schema}
    (hwell : schema.WellFormed) {table : Table} (htable : table ∈ schema.tables.toList)
    (key : Column) :
    DefinesApart (tableModule schema table key) ↔
      table.name ∉ table.localStructs.names ∧ table.name ∉ table.keyType.rowTypeNames ∧
        ¬ MeetsWord (table.localStructs.names ++ [table.name]) ∧
        (∀ struct ∈ table.localStructs.toList, ¬ MeetsWord struct.fields.names) ∧
        ¬ MeetsWord table.columns.names := by
  have htableWell := hwell.tables table htable
  have hfound := hwell.definitions_tableModule htable key
  have hfields := nodup_fields_iff hfound
    (fun struct hmem => (htableWell.localStructs struct hmem).fields.distinct)
    htableWell.columnNames.distinct
  have htypes : ((definitions (tableModule schema table key)).map Definition.name).Nodup ↔
      (table.name ∉ table.localStructs.names ∧ table.name ∉ table.keyType.rowTypeNames) ∧
        ¬ MeetsWord (table.localStructs.names ++ [table.name]) := by
    rw [map_name_tableModule hfound, nodup_map_escape_iff, meetsWord_rowTypeNames_iff,
      ← List.concat_eq_append, List.nodup_concat, List.mem_append, not_or,
      and_iff_left htableWell.nodup_ownTypeNames]
  constructor
  · intro happart
    obtain ⟨⟨hstruct, hrow⟩, hword⟩ := htypes.1 happart.types
    exact ⟨hstruct, hrow, hword, hfields.1 happart.fields⟩
  · rintro ⟨hstruct, hrow, hword, hall⟩
    exact ⟨htypes.2 ⟨⟨hstruct, hrow⟩, hword⟩, hfields.2 hall⟩

/-- When the modules that are generated for a declared reader define every name once. The names of
the types are those of the structs, the rows and the table, escaped. -/
theorem modules_defineApart_iff {readDocument : Markup.DocumentReader} {filePath text : String}
    {schema : Schema} {reader : String}
    (hcompiled : compileSchema readDocument filePath text = .ok schema)
    (hdeclared : schema.Declares reader) :
    ∃ view, verifiedView schema reader = .ok view ∧
      (∀ struct ∈ view.globalStructs.toList,
        (definitions (structModule struct)).map Definition.name = [escape struct.name] ∧
        (DefinesApart (structModule struct) ↔ ¬ MeetsWord struct.fields.names)) ∧
      ∀ table ∈ view.tables.toList, ∃ key, table.keyColumn? = some key ∧
        (definitions (tableModule view table key)).map Definition.name =
          (table.localStructs.names ++ table.keyType.rowTypeNames ++ [table.name]).map escape ∧
        (DefinesApart (tableModule view table key) ↔
          table.name ∉ table.localStructs.names ∧ table.name ∉ table.keyType.rowTypeNames ∧
            ¬ MeetsWord (table.localStructs.names ++ [table.name]) ∧
            (∀ struct ∈ table.localStructs.toList, ¬ MeetsWord struct.fields.names) ∧
            ¬ MeetsWord table.columns.names) := by
  obtain ⟨hverified, root, hread⟩ := readFrom_of_compileSchema hcompiled
  have hwell := hread.wellFormed.view reader
  refine ⟨schema.view reader, (verifiedView_makes hverified hdeclared).1, ?_, ?_⟩
  · intro struct hmem
    have hwords := hwell.namesWords hmem
    have hfields := (hwell.globalStructs struct hmem).fields.distinct
    refine ⟨?_, definesApart_structModule_iff hwords hfields⟩
    rw [definitions_structModule hwords]
    rfl
  · intro table htable
    obtain ⟨key, hkey, -⟩ := (hwell.tables table htable).key
    exact ⟨key, hkey, map_name_tableModule (hwell.definitions_tableModule htable key),
      hwell.definesApart_tableModule_iff htable key⟩

namespace Example

/-- A table with words of the language for names. -/
def words : String :=
"<define><reader name='r'/><table name='type' file='t' key='k'><struct name='self'/>
<col name='k' type='int'/><col name='final' type='self'/></table></define>"

def wordTable : Table where
  name := "type"
  line := 1
  fileName := "t"
  keyType := .single
  keyName := "k"
  keyColumnIndex := 0
  readers := ∅
  localStructs := .ofList [⟨"self", 1, some "type", ∅⟩]
  columns := .ofList
    [⟨"k", 2, .int, none, none, ∅⟩, ⟨"final", 2, .struct, none, some (.ofTable 0), ∅⟩]

def wordSchema : Schema where
  filePath := "t.xml"
  readers := .ofList [⟨"r", 1, []⟩]
  globalStructs := ∅
  tables := .ofList [wordTable]

set_option maxRecDepth 4000 in
theorem compileSchema_words :
    compileSchema Markup.readDocument "t.xml" words = .ok wordSchema := by
  refine (compileSchema_ofList "t.xml" _).trans ?_
  decide +kernel

/-- A table with a struct that is called as the table is. -/
def nested : String :=
"<define><reader name='r'/><table name='T' file='t' key='k'><struct name='T'/>
<col name='k' type='int'/></table></define>"

def nestedTable : Table where
  name := "T"
  line := 1
  fileName := "t"
  keyType := .single
  keyName := "k"
  keyColumnIndex := 0
  readers := ∅
  localStructs := .ofList [⟨"T", 1, some "T", ∅⟩]
  columns := .ofList [⟨"k", 2, .int, none, none, ∅⟩]

def nestedSchema : Schema :=
  { wordSchema with tables := .ofList [nestedTable] }

set_option maxRecDepth 4000 in
theorem compileSchema_nested :
    compileSchema Markup.readDocument "t.xml" nested = .ok nestedSchema := by
  refine (compileSchema_ofList "t.xml" _).trans ?_
  decide +kernel

end Example

open Example in
theorem modules_defineApart_words :
    compileSchema Markup.readDocument "t.xml" words = .ok wordSchema ∧ wordSchema.Declares "r" ∧
      verifiedView wordSchema "r" = .ok wordSchema ∧ wordTable ∈ wordSchema.tables.toList ∧
      ∃ key, wordTable.keyColumn? = some key ∧
        (definitions (tableModule wordSchema wordTable key)).map Definition.name =
          ["self_", "Row", "Rows", "type_"] ∧
        DefinesApart (tableModule wordSchema wordTable key) := by
  have hview : verifiedView wordSchema "r" = .ok wordSchema := by decide +kernel
  have hdeclared : wordSchema.Declares "r" := ⟨⟨"r", 1, []⟩, by decide, rfl⟩
  have htable : wordTable ∈ wordSchema.tables.toList := by decide
  obtain ⟨view, hother, -, htables⟩ := modules_defineApart_iff compileSchema_words hdeclared
  obtain rfl := Except.ok.inj (hview.symm.trans hother)
  obtain ⟨key, hkey, hnames, hiff⟩ := htables wordTable htable
  refine ⟨compileSchema_words, hdeclared, hview, htable, key, hkey, ?_, ?_⟩
  · rw [hnames]
    decide
  · rw [hiff]
    decide

open Example in
/-- A module with two types of the same name. -/
theorem nested_definedTwice :
    compileSchema Markup.readDocument "t.xml" nested = .ok nestedSchema ∧
      nestedSchema.Declares "r" ∧
      verifiedView nestedSchema "r" = .ok nestedSchema ∧
      nestedTable ∈ nestedSchema.tables.toList ∧
      ∃ key, nestedTable.keyColumn? = some key ∧
        (definitions (tableModule nestedSchema nestedTable key)).map Definition.name =
          ["T", "Row", "Rows", "T"] ∧
        ¬ DefinesApart (tableModule nestedSchema nestedTable key) := by
  have hdeclared : nestedSchema.Declares "r" := ⟨⟨"r", 1, []⟩, by decide, rfl⟩
  have hview : verifiedView nestedSchema "r" = .ok nestedSchema := by decide +kernel
  have hverified : nestedSchema.verify = .ok nestedSchema := by decide +kernel
  have htable : nestedTable ∈ nestedSchema.tables.toList := by decide
  have hwell := nestedSchema.verify_eq_ok_iff.1 hverified
  have hkey : nestedTable.keyColumn? = some ⟨"k", 2, .int, none, none, ∅⟩ := rfl
  have hnames : (definitions (tableModule nestedSchema nestedTable
      ⟨"k", 2, .int, none, none, ∅⟩)).map Definition.name = ["T", "Row", "Rows", "T"] := by
    rw [map_name_tableModule (hwell.definitions_tableModule htable _)]
    decide
  refine ⟨compileSchema_nested, hdeclared, hview, htable, _, hkey, hnames, ?_⟩
  intro happart
  have htypes := happart.types
  rw [hnames] at htypes
  exact absurd htypes (by decide)

end TableSchema
