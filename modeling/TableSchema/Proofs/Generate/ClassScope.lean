import TableSchema.Generate.CppHeader
import TableSchema.Proofs.Generate.Scopes
import TableSchema.Proofs.Pipeline

/-!
# Struct names in the classes of tables

The class of a table declares the classes of its structs and the types of its rows. A name that
stands in the class means what the class declares under it, and only otherwise what is declared
outside.
-/

namespace TableSchema

open Generate

namespace Generate.Cpp

def declaredName? (line : String) : Option String :=
  (identifierAfter "class " line).or (identifierAfter "using " line)

/-- The name that is declared in a class by one of its lines. -/
def nestedName? (line : String) : Option String :=
  (identifierAfter "    class " line).or (identifierAfter "    using " line)

/-- The names of the types that are declared in a class. -/
def nestedNames (lines : Lines) : List String :=
  lines.filterMap nestedName?

/-! ## Lines that declare a name -/

theorem nestedName?_indentLine (line : String) :
    nestedName? (indentLine line) = declaredName? line := by
  have hclass := identifierAfter_indentLine (by decide : "class " ≠ "") line
  have husing := identifierAfter_indentLine (by decide : "using " ≠ "") line
  rw [nestedName?, declaredName?, ← hclass, ← husing]
  rfl

theorem declaredName?_indentLine (line : String) : declaredName? (indentLine line) = none := by
  rw [declaredName?, identifierAfter_indentLine_of_head (c := 'c') (by decide) (by decide),
    identifierAfter_indentLine_of_head (c := 'u') (by decide) (by decide), Option.or_none]

theorem declaredName?_class {name rest : String} (hname : IsWord name)
    (hrest : rest.toList.head?.any isIdentifierPart = false) :
    declaredName? ("class " ++ name ++ rest) = some name := by
  rw [declaredName?, identifierAfter_append hname hrest, Option.some_or]

theorem declaredName?_using {name rest : String} (hname : IsWord name)
    (hrest : rest.toList.head?.any isIdentifierPart = false) :
    declaredName? ("using " ++ name ++ rest) = some name := by
  rw [declaredName?, identifierAfter_append hname hrest, String.append_assoc,
    identifierAfter_of_start (by decide), Option.none_or]

/-- A line without a space declares nothing. -/
theorem declaredName?_of_not_mem {line : String} (hspace : ' ' ∉ line.toList) :
    declaredName? line = none := by
  have hnot {opening : String} (hopening : ' ' ∈ opening.toList) :
      identifierAfter opening line = none := by
    rw [identifierAfter_eq_none_iff]
    exact fun hstarts => hspace (hstarts.subset hopening)
  rw [declaredName?, hnot (by decide), hnot (by decide), Option.or_none]

theorem declaredName?_of_start {start : String}
    (hclass : ¬ "class ".toList <+: start.toList ∧ ¬ start.toList <+: "class ".toList)
    (husing : ¬ "using ".toList <+: start.toList ∧ ¬ start.toList <+: "using ".toList)
    (rest : String) : declaredName? (start ++ rest) = none := by
  rw [declaredName?, identifierAfter_of_start hclass, identifierAfter_of_start husing,
    Option.or_none]

/-! ## The class of a table -/

/-- The names that the lines of a class declare, if its body stands in it. -/
def declaredNames (lines : Lines) : List String :=
  lines.filterMap declaredName?

theorem declaredNames_indent (lines : Lines) : declaredNames (indent lines) = [] := by
  rw [declaredNames, filterMap_indent declaredName?_indentLine]
  simp

theorem declaredNames_append (lines others : Lines) :
    declaredNames (lines ++ others) = declaredNames lines ++ declaredNames others :=
  List.filterMap_append

theorem declaredNames_cons_of_none {line : String} (hline : declaredName? line = none)
    (lines : Lines) : declaredNames (line :: lines) = declaredNames lines :=
  List.filterMap_cons_none hline

theorem declaredNames_cons_of_some {line name : String} (hline : declaredName? line = some name)
    (lines : Lines) : declaredNames (line :: lines) = name :: declaredNames lines :=
  List.filterMap_cons_some hline

theorem declaredNames_linesIf {condition : Bool} {lines : Lines}
    (hlines : declaredNames lines = []) : declaredNames (linesIf condition lines) = [] := by
  cases condition with
  | false => rfl
  | true => exact hlines

theorem declaredNames_structClass {struct : Struct} (hname : IsWord struct.name) :
    declaredNames (structClass struct) = [struct.name] := by
  have hhead : declaredNames ["class " ++ struct.name ++ " \x7b", "public:"] = [struct.name] :=
    declaredNames_cons_of_some (declaredName?_class hname (by decide)) _
  have hpublic : declaredNames ["", "public:"] = [] := by decide
  rw [structClass]
  simp only [declaredNames_append, declaredNames_indent, declaredNames_linesIf hpublic, hhead]
  rfl

theorem declaredNames_rowClass (schema : Schema) (table : Table) :
    declaredNames (rowClass schema table) = ["Row"] := by
  have hhead : declaredNames ["class Row \x7b", "public:"] = ["Row"] := by decide
  have hpublic : declaredNames ["", "public:"] = [] := by decide
  rw [rowClass]
  simp only [declaredNames_append, declaredNames_indent, declaredNames_linesIf hpublic, hhead]
  rfl

/-- A type of rows by the type of their keys. -/
theorem declaredName?_map {name : String} (hname : IsWord name) (keyType rest : String) :
    declaredName? ("using " ++ name ++ " = std::map<" ++ keyType ++ rest) = some name := by
  rw [String.append_assoc, String.append_assoc]
  exact declaredName?_using hname (head?_append_any (by decide) (by decide) _)

theorem declaredNames_rowTypes (schema : Schema) (table : Table) (key : Column) :
    "Row" :: declaredNames (rowTypes schema table key) = table.keyType.rowTypeNames := by
  have hmap {name : String} (hname : IsWord name) (rest : String) :=
    declaredName?_map hname (columnType schema table key) rest
  rw [rowTypes]
  cases table.keyType with
  | single =>
      have hrows : "using Rows = std::map<" = "using " ++ "Rows" ++ " = std::map<" := rfl
      dsimp only
      rw [hrows, declaredNames_cons_of_some (hmap (by decide) ", Row>;")]
      rfl
  | set =>
      have hset : declaredName? "using RowSet = std::vector<Row>;" = some "RowSet" := by decide
      have hsets : "using RowSets = std::map<" = "using " ++ "RowSets" ++ " = std::map<" := rfl
      dsimp only
      rw [declaredNames_cons_of_some hset, hsets,
        declaredNames_cons_of_some (hmap (by decide) ", RowSet>;")]
      rfl

theorem declaredNames_tableDeclarations (schema : Schema) {table : Table}
    (hname : IsWord table.name) (key : Column) :
    declaredNames (tableDeclarations schema table key) = [] := by
  have hspace {rest : String} (hrest : ' ' ∉ rest.toList) :
      declaredName? (table.name ++ rest) = none := by
    refine declaredName?_of_not_mem ?_
    rw [String.toList_append, List.mem_append, not_or]
    exact ⟨fun hmem => absurd (hname _ hmem) (by decide), hrest⟩
  have haccessors : declaredNames (accessorDeclarations schema table key) = [] := by
    rw [accessorDeclarations]
    cases table.keyType with
    | single =>
        dsimp only
        rw [String.append_assoc, declaredNames_cons_of_none
          (declaredName?_of_start (by decide) (by decide) _)]
        decide +kernel
    | set =>
        dsimp only
        rw [String.append_assoc, declaredNames_cons_of_none
          (declaredName?_of_start (by decide) (by decide) _)]
        decide +kernel
  rw [tableDeclarations, declaredNames_append, haccessors, List.append_nil,
    declaredNames_cons_of_none (hspace (by decide)), String.append_assoc,
    declaredNames_cons_of_none (declaredName?_of_start (by decide) (by decide) _)]
  decide +kernel

theorem nestedNames_append (lines others : Lines) :
    nestedNames (lines ++ others) = nestedNames lines ++ nestedNames others :=
  List.filterMap_append

theorem nestedNames_indent (lines : Lines) : nestedNames (indent lines) = declaredNames lines :=
  filterMap_indent nestedName?_indentLine lines

theorem declaredNames_spaced (groups : List Lines) :
    declaredNames (spaced groups) = groups.flatMap declaredNames :=
  filterMap_spaced (by decide) groups

/-- The class of a table declares its structs and the types of its rows, and nothing else. -/
theorem nestedNames_tableClass (schema : Schema) {table : Table} (hname : IsWord table.name)
    (hstructs : ∀ struct ∈ table.localStructs.toList, IsWord struct.name) (key : Column) :
    nestedNames (tableClass schema table key) =
      table.localStructs.names ++ table.keyType.rowTypeNames := by
  have hhead : nestedNames ["class " ++ table.name ++ " \x7b", "public:"] = [] := by
    have hclass : nestedName? ("class " ++ table.name ++ " \x7b") = none := by
      rw [nestedName?, String.append_assoc, identifierAfter_of_start (by decide),
        identifierAfter_of_start (by decide), Option.or_none]
    rw [nestedNames, List.filterMap_cons_none hclass]
    decide
  have hmember : nestedNames (indent [rowsMember table]) = [] := by
    rw [rowsMember]
    cases table.keyType with
    | single => decide
    | set => decide
  have hprivate : nestedNames ["", "private:"] = [] := by decide
  have hend : nestedNames ["\x7d;"] = [] := by decide
  have hclasses : (table.localStructs.toList.map structClass).flatMap declaredNames =
      table.localStructs.names := by
    rw [List.flatMap_map, Catalog.names, List.map_eq_flatMap]
    exact List.flatMap_congr fun struct hmem => declaredNames_structClass (hstructs struct hmem)
  rw [tableClass]
  simp only [nestedNames_append, nestedNames_indent, declaredNames_spaced, List.flatMap_append,
    hhead, hmember, hprivate, hend, hclasses, List.nil_append, List.append_nil]
  rw [List.flatMap_cons, List.flatMap_cons, List.flatMap_singleton, declaredNames_rowClass,
    declaredNames_tableDeclarations schema hname, List.append_nil, List.singleton_append,
    declaredNames_rowTypes]

end Generate.Cpp

/-! ## Structs of columns -/

/-- A name that selects a struct is its name. -/
theorem Schema.Selects.exists_struct {schema : Schema} {table : Table} {name : String}
    {ref : StructRef} (hselects : schema.Selects table name ref) :
    ∃ struct, schema.struct? table ref = some struct ∧ struct.name = name := by
  cases ref with
  | ofTable i => exact Catalog.names_getElem?_eq_some_iff.1 hselects
  | ofSchema i => exact Catalog.names_getElem?_eq_some_iff.1 hselects.2

/-- A column of structs has been read with a name that selects its struct. -/
theorem Column.ReadFrom.selects {schema : Schema} {table : Table} {element : Markup.Element}
    {column : Column} (hread : column.ReadFrom schema table element)
    (hstruct : column.valueType = .struct) :
    ∃ name ref, column.structRef = some ref ∧ schema.Selects table name ref := by
  obtain ⟨typeName, -, hsingle | ⟨inner, valueType, -, -, hlist, hnamed⟩⟩ := hread.type
  case inl =>
    obtain ⟨-, hlist, hnamed⟩ := hsingle
    rw [Column.valueType, hlist, Option.getD_none] at hstruct
    rw [hstruct] at hnamed
    generalize column.structRef = structRef at hnamed
    cases hnamed with
    | struct _ _ hselects => exact ⟨typeName, _, rfl, hselects⟩
  case inr =>
    rw [Column.valueType, hlist, Option.getD_some] at hstruct
    rw [hstruct] at hnamed
    generalize column.structRef = structRef at hnamed
    cases hnamed with
    | struct _ _ hselects => exact ⟨inner, _, rfl, hselects⟩

/-- A column of structs in a view refers to a struct of its table, or to one of the schema the name
of which no struct of its table has. -/
theorem Schema.ReadFrom.struct?_of_view {root : Markup.Element} {schema : Schema} {reader : String}
    (hread : schema.ReadFrom root) {table : Table}
    (htable : table ∈ (schema.view reader).tables.toList) {column : Column}
    (hcolumn : column ∈ table.columns.toList) (hstruct : column.valueType = .struct) :
    ∃ ref struct, column.structRef = some ref ∧
      (schema.view reader).struct? table ref = some struct ∧
      ∀ i, ref = .ofSchema i → struct.name ∉ table.localStructs.names := by
  rw [Schema.toList_view_tables] at htable
  obtain ⟨whole, hwhole, rfl⟩ := List.mem_map.1 htable
  rw [Table.toList_inView_columns] at hcolumn
  obtain ⟨element, hwholeRead⟩ := hread.tables.exists_element (List.mem_filter.1 hwhole).1
  obtain ⟨child, hcolumnRead⟩ :=
    hwholeRead.columns.exists_element (List.mem_filter.1 hcolumn).1
  obtain ⟨name, ref, href, hselects⟩ := hcolumnRead.selects hstruct
  obtain ⟨struct, hfound, rfl⟩ := hselects.exists_struct
  have hnames : (whole.inView reader).localStructs.names = whole.localStructs.names := by
    rw [Catalog.names, Table.toList_inView_localStructs, List.map_map]
    rfl
  refine ⟨ref, struct.rebuild, href, ?_, ?_⟩
  · rw [Schema.view_struct?, hfound, Option.map_some]
  · rintro i rfl
    rw [hnames]
    exact hselects.1

/-- What the name of a struct means where the class of a table declares a column. A struct of the
table is the one type in the class that has the name. The name of a struct of the schema is free in
the class, unless it is that of a type of rows. -/
theorem structName_in_tableClass {readDocument : Markup.DocumentReader} {filePath text : String}
    {schema : Schema} {reader : String}
    (hcompiled : compileSchema readDocument filePath text = .ok schema)
    (hdeclared : schema.Declares reader) :
    ∃ view, verifiedView schema reader = .ok view ∧ ∀ table ∈ view.tables.toList,
      ∃ key, table.keyColumn? = some key ∧
      ∀ column ∈ table.columns.toList, column.valueType = .struct →
        ∃ ref struct, column.structRef = some ref ∧ view.struct? table ref = some struct ∧
          Cpp.columnType view table column =
            (if column.isList then "std::vector<" ++ struct.name ++ ">" else struct.name) ∧
          let names := Cpp.nestedNames (Cpp.tableClass view table key)
          match ref with
          | .ofTable _ => names.count struct.name = 1
          | .ofSchema _ => struct.name ∉ table.localStructs.names ∧
              (struct.name ∈ names ↔ struct.name ∈ table.keyType.rowTypeNames) := by
  obtain ⟨hverified, root, hread⟩ := readFrom_of_compileSchema hcompiled
  have hwell := hread.wellFormed.view reader
  refine ⟨schema.view reader, (verifiedView_makes hverified hdeclared).1, fun table htable => ?_⟩
  have htableWell := hwell.tables table htable
  obtain ⟨key, hkey, -⟩ := htableWell.key
  refine ⟨key, hkey, fun column hcolumn hstruct => ?_⟩
  obtain ⟨ref, struct, href, hfound, hfree⟩ := hread.struct?_of_view htable hcolumn hstruct
  have hnames := Cpp.nestedNames_tableClass (schema.view reader) (isWord_tableName hwell htable)
    (isWord_of_properNames htableWell.localStructNames) key
  refine ⟨ref, struct, href, hfound, ?_, ?_⟩
  · have hcolumnStruct : (schema.view reader).columnStruct? table column = some struct := by
      rw [Schema.columnStruct?, href]
      exact hfound
    simp [Cpp.columnType, Cpp.valueType, hstruct, hcolumnStruct]
  · intro names
    have hall : names = table.localStructs.names ++ table.keyType.rowTypeNames := hnames
    cases ref with
    | ofTable i =>
        have hmem : struct ∈ table.localStructs.toList := List.mem_of_getElem? hfound
        apply List.count_eq_one_of_mem
        · exact hall ▸ htableWell.nodup_ownTypeNames
        · exact hall ▸ List.mem_append_left _ (List.mem_map_of_mem hmem)
    | ofSchema i =>
        have hnot := hfree i rfl
        refine ⟨hnot, ?_⟩
        rw [hall, List.mem_append, or_iff_right hnot]

namespace Example

/-- A table with a struct of its own, which the schema has under the same name, and with one of the
schema. -/
def places : String :=
"<define><reader name='r'/><struct name='P'/><struct name='Q'/>
<table name='T' file='t' key='k'><struct name='P'/><col name='k' type='int'/>
<col name='p' type='P'/><col name='q' type='Q'/></table></define>"

def placeTable : Table where
  name := "T"
  line := 2
  fileName := "t"
  keyType := .single
  keyName := "k"
  keyColumnIndex := 0
  readers := ∅
  localStructs := .ofList [⟨"P", 2, some "T", ∅⟩]
  columns := .ofList
    [⟨"k", 2, .int, none, none, ∅⟩, ⟨"p", 3, .struct, none, some (.ofTable 0), ∅⟩,
     ⟨"q", 3, .struct, none, some (.ofSchema 1), ∅⟩]

def placeSchema : Schema where
  filePath := "t.xml"
  readers := .ofList [⟨"r", 1, []⟩]
  globalStructs := .ofList [⟨"P", 1, none, ∅⟩, ⟨"Q", 1, none, ∅⟩]
  tables := .ofList [placeTable]

set_option maxRecDepth 4000 in
theorem compileSchema_places :
    compileSchema Markup.readDocument "t.xml" places = .ok placeSchema := by
  refine (compileSchema_ofList "t.xml" _).trans ?_
  decide +kernel

/-- A table with a struct of the schema that is called as the rows of tables are. -/
def layers : String :=
"<define><reader name='r'/><struct name='Row'/>
<table name='T' file='t' key='k'><col name='k' type='int'/><col name='p' type='Row'/></table>
</define>"

def layerTable : Table where
  name := "T"
  line := 2
  fileName := "t"
  keyType := .single
  keyName := "k"
  keyColumnIndex := 0
  readers := ∅
  localStructs := ∅
  columns := .ofList
    [⟨"k", 2, .int, none, none, ∅⟩, ⟨"p", 2, .struct, none, some (.ofSchema 0), ∅⟩]

def layerSchema : Schema :=
  { placeSchema with
    globalStructs := .ofList [⟨"Row", 1, none, ∅⟩]
    tables := .ofList [layerTable] }

set_option maxRecDepth 4000 in
theorem compileSchema_layers :
    compileSchema Markup.readDocument "t.xml" layers = .ok layerSchema := by
  refine (compileSchema_ofList "t.xml" _).trans ?_
  decide +kernel

end Example

open Example in
theorem structName_in_tableClass_places :
    compileSchema Markup.readDocument "t.xml" places = .ok placeSchema ∧ placeSchema.Declares "r" ∧
      verifiedView placeSchema "r" = .ok placeSchema ∧ placeTable ∈ placeSchema.tables.toList ∧
      ∃ key, placeTable.keyColumn? = some key ∧
        (Cpp.nestedNames (Cpp.tableClass placeSchema placeTable key)).count "P" = 1 ∧
        "Q" ∉ Cpp.nestedNames (Cpp.tableClass placeSchema placeTable key) := by
  have hview : verifiedView placeSchema "r" = .ok placeSchema := by decide +kernel
  have hdeclared : placeSchema.Declares "r" := ⟨⟨"r", 1, []⟩, by decide, rfl⟩
  have htable : placeTable ∈ placeSchema.tables.toList := by decide
  obtain ⟨view, hother, htables⟩ := structName_in_tableClass compileSchema_places hdeclared
  obtain rfl := Except.ok.inj (hview.symm.trans hother)
  obtain ⟨key, hkey, hcolumns⟩ := htables placeTable htable
  refine ⟨compileSchema_places, hdeclared, hview, htable, key, hkey, ?_, ?_⟩
  · obtain ⟨ref, struct, href, hstruct, -, hcount⟩ :=
      hcolumns ⟨"p", 3, .struct, none, some (.ofTable 0), ∅⟩ (by decide) rfl
    obtain rfl := Option.some.inj href
    obtain rfl := Option.some.inj hstruct
    exact hcount
  · obtain ⟨ref, struct, href, hstruct, -, hfree⟩ :=
      hcolumns ⟨"q", 3, .struct, none, some (.ofSchema 1), ∅⟩ (by decide) rfl
    obtain rfl := Option.some.inj href
    obtain rfl := Option.some.inj hstruct
    exact hfree.2.not.2 (by decide)

open Example in
/-- The class of rows takes the name that a struct of the schema has. -/
theorem layers_captured :
    compileSchema Markup.readDocument "t.xml" layers = .ok layerSchema ∧ layerSchema.Declares "r" ∧
      verifiedView layerSchema "r" = .ok layerSchema ∧
      layerTable ∈ layerSchema.tables.toList ∧ ∃ key, layerTable.keyColumn? = some key ∧
      ∃ column ∈ layerTable.columns.toList, column.valueType = .struct ∧
        column.structRef = some (.ofSchema 0) ∧
        Cpp.columnType layerSchema layerTable column = "Row" ∧
        "Row" ∈ Cpp.nestedNames (Cpp.tableClass layerSchema layerTable key) := by
  have hdeclared : layerSchema.Declares "r" := ⟨⟨"r", 1, []⟩, by decide, rfl⟩
  have hview : verifiedView layerSchema "r" = .ok layerSchema := by decide +kernel
  have hcaptured : "Row" ∈ Cpp.nestedNames (Cpp.tableClass layerSchema layerTable
      ⟨"k", 2, .int, none, none, ∅⟩) := by decide +kernel
  exact ⟨compileSchema_layers, hdeclared, hview, by decide, _, rfl,
    ⟨"p", 2, .struct, none, some (.ofSchema 0), ∅⟩, by decide, rfl, rfl, rfl, hcaptured⟩

end TableSchema
