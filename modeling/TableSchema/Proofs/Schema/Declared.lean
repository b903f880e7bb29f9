import TableSchema.Example.Fair
import TableSchema.Proofs.Schema.Accepted

/-!
# Documents that declare a schema

Every sound schema whose columns can name their structs is written down by some element tree, and
whatever tree declares it is read as that schema again. Only lines and the path of the document are
not part of what is declared.
-/

namespace TableSchema

open Markup (Element)

/-! ## What declares a schema -/

structure Reader.DeclaredBy (element : Element) (reader : Reader) : Prop where
  name : element.attribute? "name" = some reader.name
  namespaceParts : element.attribute? "namespace" = joined? '.' reader.namespaceParts

structure Field.DeclaredBy (element : Element) (field : Field) : Prop where
  kind : element.name = "field"
  name : element.attribute? "name" = some field.name
  type : element.attribute? "type" = some field.type.name

structure Struct.DeclaredBy (element : Element) (struct : Struct) : Prop where
  name : element.attribute? "name" = some struct.name
  fields : List.Forall₂ Field.DeclaredBy element.children struct.fields.toList

/-- The readers may be listed in any order. -/
def ReaderSet.DeclaredBy (element : Element) (readers : ReaderSet) : Prop :=
  ∃ names, element.attribute? "readby" = joined? '|' names ∧ ReaderSet.ofList names = readers

/-- The name by which a column gives the type of its single values. -/
def Schema.valueTypeName? (schema : Schema) (table : Table) (column : Column) : Option String :=
  match column.valueType with
  | .int => some "int"
  | .string => some "string"
  | .struct => (schema.columnStruct? table column).map (·.name)
  | .list => none

structure Column.DeclaredBy (schema : Schema) (table : Table) (element : Element)
    (column : Column) : Prop where
  name : element.attribute? "name" = some column.name
  type : ∃ valueName, schema.valueTypeName? table column = some valueName ∧
    element.attribute? "type" =
      some (if column.isList then "list\x7b" ++ valueName ++ "\x7d" else valueName)
  readers : column.readers.DeclaredBy element

/-- Structs and columns may stand between one another, each of them in their order. -/
structure Table.DeclaredBy (schema : Schema) (element : Element) (table : Table) : Prop where
  name : element.attribute? "name" = some table.name
  fileName : element.attribute? "file" = some table.fileName
  key : table.KeyReadFrom element
  readers : table.readers.DeclaredBy element
  kinds : ∀ child ∈ element.children, child.name = "struct" ∨ child.name = "col"
  localStructs :
    List.Forall₂ Struct.DeclaredBy (element.childrenNamed "struct") table.localStructs.toList
  columns : List.Forall₂ (Column.DeclaredBy schema table) (element.childrenNamed "col")
    table.columns.toList

/-- Readers, structs and tables may stand between one another and between elements of other names,
each of them in their order. -/
structure Schema.DeclaredBy (root : Element) (schema : Schema) : Prop where
  kind : root.name = "define"
  readers : List.Forall₂ Reader.DeclaredBy (root.childrenNamed "reader") schema.readers.toList
  globalStructs :
    List.Forall₂ Struct.DeclaredBy (root.childrenNamed "struct") schema.globalStructs.toList
  tables : List.Forall₂ (Table.DeclaredBy schema) (root.childrenNamed "table") schema.tables.toList

/-- The struct to which a column refers, if it does, is the one that its bare name selects. -/
def Column.RefersByName (schema : Schema) (table : Table) (column : Column) : Prop :=
  ∀ ref, column.structRef = some ref → ∃ struct, schema.struct? table ref = some struct ∧
    struct.name ≠ "int" ∧ struct.name ≠ "string" ∧ schema.Selects table struct.name ref

def Schema.RefersByName (schema : Schema) : Prop :=
  ∀ table ∈ schema.tables.toList, ∀ column ∈ table.columns.toList,
    column.RefersByName schema table

/-! ## What is declared -/

def Reader.unplaced (reader : Reader) : Reader :=
  { reader with line := 0 }

def Field.unplaced (field : Field) : Field :=
  { field with line := 0 }

def Struct.unplaced (struct : Struct) : Struct :=
  { struct with line := 0, fields := .ofList (struct.fields.toList.map Field.unplaced) }

def Column.unplaced (column : Column) : Column :=
  { column with line := 0 }

def Table.unplaced (table : Table) : Table :=
  { table with
    line := 0
    localStructs := .ofList (table.localStructs.toList.map Struct.unplaced)
    columns := .ofList (table.columns.toList.map Column.unplaced) }

/-- The schema without the lines and the path of its document. -/
def Schema.unplaced (schema : Schema) : Schema where
  filePath := ""
  readers := .ofList (schema.readers.toList.map Reader.unplaced)
  globalStructs := .ofList (schema.globalStructs.toList.map Struct.unplaced)
  tables := .ofList (schema.tables.toList.map Table.unplaced)

/-! ## Entries in turn -/

/-- Entries that are declared one by one are read one by one, and the same in all but their
places. -/
theorem Catalog.exists_readFrom {α : Type} [Named α] {declaredBy : Element → α → Prop}
    (readFrom : Element → α → Prop) (unplaced : α → α) {elements : List Element}
    {catalog : Catalog α}
    (hname : ∀ entry, Named.name (unplaced entry) = Named.name entry)
    (hdistinct : catalog.names.Nodup)
    (hdeclared : List.Forall₂ declaredBy elements catalog.toList)
    (hread : ∀ entry ∈ catalog.toList, ∀ element, declaredBy element entry →
      ∃ placed, readFrom element placed ∧ unplaced placed = unplaced entry) :
    ∃ placed : Catalog α, placed.ReadFrom readFrom elements ∧ placed.names = catalog.names ∧
      placed.toList.map unplaced = catalog.toList.map unplaced := by
  have hentries : ∃ placed, List.Forall₂ readFrom elements placed ∧
      placed.map unplaced = catalog.toList.map unplaced := by
    clear hdistinct
    generalize catalog.toList = entries at hdeclared hread
    induction hdeclared with
    | nil => exact ⟨[], .nil, rfl⟩
    | cons hfirst _ ih =>
        rw [List.forall_mem_cons] at hread
        obtain ⟨placed, hplaced, hsame⟩ := hread.1 _ hfirst
        obtain ⟨others, hothers, hrest⟩ := ih hread.2
        exact ⟨placed :: others, .cons hplaced hothers, by rw [List.map_cons, hsame, hrest]; rfl⟩
  obtain ⟨placed, hplaced, hsame⟩ := hentries
  have hnames : placed.map Named.name = catalog.names := by
    have hunplaced : Named.name ∘ unplaced = Named.name := funext hname
    rw [Catalog.names, ← hunplaced, ← List.map_map, hsame, List.map_map]
  refine ⟨.ofList placed, ⟨⟨Catalog.indexed_ofList placed, ?_⟩, ?_⟩, ?_, ?_⟩
  · rw [Catalog.names_ofList, hnames]
    exact hdistinct
  · rw [Catalog.toList_ofList]
    exact hplaced
  · rw [Catalog.names_ofList, hnames]
  · rw [Catalog.toList_ofList, hsame]

/-! ## Structs -/

theorem Struct.DeclaredBy.exists_readFrom {element : Element} {struct : Struct}
    (hdeclared : struct.DeclaredBy element) (hname : Identifier struct.name)
    (hfields : ProperNames struct.fields.names) :
    ∃ placed : Struct, placed.ReadFrom struct.owner element ∧ placed.name = struct.name ∧
      placed.unplaced = struct.unplaced := by
  obtain ⟨fields, hread, -, hsame⟩ := Catalog.exists_readFrom Field.ReadFrom Field.unplaced
    (fun _ => rfl) hfields.distinct hdeclared.fields (by
      intro field hmem child hfield
      refine ⟨{ field with line := child.line }, ?_, rfl⟩
      exact ⟨hfield.kind, hfield.name, Catalog.forall_names.1 hfields.identifiers field hmem, rfl,
        hfield.type⟩)
  refine ⟨⟨struct.name, element.line, struct.owner, fields⟩,
    ⟨hdeclared.name, hname, rfl, rfl, hread⟩, rfl, ?_⟩
  rw [Struct.unplaced, hsame]
  rfl

/-! ## Columns -/

theorem elementTypeName?_of_identifier {name : String} (hname : Identifier name) :
    Analysis.elementTypeName? name = none := by
  have hbrace : '\x7b' ∉ name.toList := hname.not_mem (by decide)
  unfold Analysis.elementTypeName?
  split
  next hchars =>
    rw [hchars] at hbrace
    simp at hbrace
  next => rfl

theorem elementTypeName?_list {name : String} (hname : Identifier name) :
    Analysis.elementTypeName? ("list\x7b" ++ name ++ "\x7d") = some name := by
  have hchars : ("list\x7b" ++ name ++ "\x7d").toList =
      'l' :: 'i' :: 's' :: 't' :: '\x7b' :: (name.toList ++ ['\x7d']) := by
    simp
  have hne : name.toList ≠ [] := by
    rintro hnil
    rw [Identifier, isIdentifier, hnil] at hname
    cases hname
  have hfeed : '\n' ∉ name.toList := hname.not_mem (by decide)
  unfold Analysis.elementTypeName?
  rw [hchars]
  simp [hne, hfeed]

theorem ReaderSet.DeclaredBy.readFrom {schema : Schema} {element : Element} {readers : ReaderSet}
    (hdeclaredBy : readers.DeclaredBy element) (hschema : schema.WellFormed)
    (hdeclared : readers.Declared schema) : readers.ReadFrom schema element := by
  obtain ⟨names, hvalue, rfl⟩ := hdeclaredBy
  refine ⟨names, hvalue, rfl, ?_⟩
  intro name hmem
  have hname := hdeclared name (ReaderSet.mem_ofList.2 hmem)
  exact ⟨(hschema.readerNames.identifiers name hname).not_mem (by decide), hname⟩

/-- The name that a column gives for the type of its single values stands for just this type. -/
theorem Column.WellFormed.valueTypeNamed {schema : Schema} (hschema : schema.WellFormed)
    {table : Table} (htable : table.WellFormed schema) {column : Column}
    (hwell : column.WellFormed schema table) (hrefers : column.RefersByName schema table)
    {valueName : String} (hvalueName : schema.valueTypeName? table column = some valueName) :
    Identifier valueName ∧
      schema.ValueTypeNamed table valueName column.valueType column.structRef := by
  have hnoStruct (hvalue : column.valueType ≠ .struct) : column.structRef = none := by
    rw [← Option.not_isSome_iff_eq_none, hwell.hasStruct]
    exact hvalue
  unfold Schema.valueTypeName? at hvalueName
  cases hvalue : column.valueType with
  | int =>
      obtain rfl : "int" = valueName := by simpa [hvalue] using hvalueName
      rw [hnoStruct (by simp [hvalue])]
      exact ⟨by decide, .int rfl⟩
  | string =>
      obtain rfl : "string" = valueName := by simpa [hvalue] using hvalueName
      rw [hnoStruct (by simp [hvalue])]
      exact ⟨by decide, .string rfl⟩
  | list => simp [hvalue] at hvalueName
  | struct =>
      obtain ⟨ref, href⟩ := Option.isSome_iff_exists.1 (hwell.hasStruct.2 hvalue)
      obtain ⟨struct, hstruct, hint, hstring, hselects⟩ := hrefers ref href
      have hfound : schema.columnStruct? table column = some struct := by
        rw [Schema.columnStruct?, href]
        exact hstruct
      obtain rfl : struct.name = valueName := by simpa [hvalue, hfound] using hvalueName
      rw [href]
      exact ⟨hschema.structName htable hstruct, .struct hint hstring hselects⟩

theorem Column.DeclaredBy.readFrom {schema : Schema} {table : Table} {element : Element}
    {column : Column} (hdeclared : column.DeclaredBy schema table element)
    (hschema : schema.WellFormed) (htable : table.WellFormed schema)
    (hmem : column ∈ table.columns.toList) (hrefers : column.RefersByName schema table) :
    Column.ReadFrom schema table element { column with line := element.line } := by
  have hwell := htable.columns column hmem
  obtain ⟨valueName, hvalueName, htype⟩ := hdeclared.type
  obtain ⟨hidentifier, hnamed⟩ := hwell.valueTypeNamed hschema htable hrefers hvalueName
  refine ⟨hdeclared.name, Catalog.forall_names.1 htable.columnNames.identifiers column hmem, rfl,
    ⟨_, htype, ?_⟩, hdeclared.readers.readFrom hschema hwell.readers⟩
  by_cases hlist : column.isList
  case pos =>
    have hcolumn : column.type = .list := by simpa [Column.isList] using hlist
    obtain ⟨valueType, hvalueType⟩ := Option.isSome_iff_exists.1 (hwell.hasListType.2 hcolumn)
    rw [if_pos hlist]
    rw [Column.valueType, hvalueType, Option.getD_some] at hnamed
    exact .inr ⟨valueName, valueType, elementTypeName?_list hidentifier, hcolumn, hvalueType,
      hnamed⟩
  case neg =>
    have hlistType : column.listType = none := by
      rw [← Option.not_isSome_iff_eq_none, hwell.hasListType]
      simpa [Column.isList] using hlist
    rw [if_neg hlist]
    rw [Column.valueType, hlistType, Option.getD_none] at hnamed
    exact .inl ⟨elementTypeName?_of_identifier hidentifier, hlistType, hnamed⟩

/-! ## Tables -/

theorem Table.DeclaredBy.exists_readFrom {schema : Schema} {element : Element} {table : Table}
    (hdeclared : table.DeclaredBy schema element) (hschema : schema.WellFormed)
    (hmem : table ∈ schema.tables.toList) (hrefers : schema.RefersByName) :
    ∃ placed : Table, placed.ReadFrom schema element ∧ placed.unplaced = table.unplaced := by
  have hwell := hschema.tables table hmem
  have hname : table.name ∈ schema.tables.names := List.mem_map_of_mem hmem
  obtain ⟨-, -, hapart⟩ := List.nodup_append.1 hschema.globalNames.distinct
  obtain ⟨localStructs, hstructs, hstructNames, hsameStructs⟩ :=
    Catalog.exists_readFrom (Struct.LocalReadFrom table.name) Struct.unplaced (fun _ => rfl)
      hwell.localStructNames.distinct hdeclared.localStructs (by
        intro struct hstruct child hchild
        obtain ⟨howned, hunreserved, hfields⟩ := hwell.localStructs struct hstruct
        have hidentifier :=
          Catalog.forall_names.1 hwell.localStructNames.identifiers struct hstruct
        obtain ⟨placed, hread, hsame, hunplaced⟩ := hchild.exists_readFrom hidentifier hfields
        exact ⟨placed, ⟨howned ▸ hread, hsame ▸ hunreserved⟩, hunplaced⟩)
  obtain ⟨columns, hcolumns, -, hsameColumns⟩ :=
    Catalog.exists_readFrom (Column.ReadFrom schema table) Column.unplaced (fun _ => rfl)
      hwell.columnNames.distinct hdeclared.columns (by
        intro column hcolumn child hchild
        exact ⟨_, hchild.readFrom hschema hwell hcolumn (hrefers table hmem column hcolumn), rfl⟩)
  refine ⟨{ table with line := element.line, localStructs, columns }, ?_, ?_⟩
  · constructor
    case name => exact hdeclared.name
    case identifier =>
      exact hschema.globalNames.identifiers table.name (List.mem_append_right _ hname)
    case line => rfl
    case apart => exact fun hglobal => hapart _ hglobal _ hname rfl
    case kinds => exact hdeclared.kinds
    case localStructs => exact hstructs
    case columns => exact hcolumns.imp fun _ _ hcolumn => hcolumn.congr rfl rfl hstructNames
    case key => exact hdeclared.key
    case keyColumn =>
      -- The key column keeps its place, its name and its type.
      obtain ⟨key, hkey, hkeyName, htype⟩ := hwell.key
      have hplace : (columns.toList.map Column.unplaced)[table.keyColumnIndex]? =
          some key.unplaced := by
        rw [hsameColumns, List.getElem?_map]
        exact congrArg (Option.map Column.unplaced) hkey
      rw [List.getElem?_map, Option.map_eq_some_iff] at hplace
      obtain ⟨placed, hplaced, hsame⟩ := hplace
      have hplacedName : placed.name = key.name := (congrArg Column.name hsame :)
      have hplacedType : placed.type = key.type := (congrArg Column.type hsame :)
      exact ⟨placed, hplaced, hplacedName.trans hkeyName, hplacedType ▸ htype⟩
    case fileName => exact hdeclared.fileName
    case readers => exact hdeclared.readers.readFrom hschema hwell.readers
  · rw [Table.unplaced, hsameStructs, hsameColumns]
    rfl

/-! ## Schemas -/

theorem Schema.DeclaredBy.exists_readFrom {schema : Schema} {root : Element}
    (hdeclared : schema.DeclaredBy root) (hwell : schema.WellFormed)
    (hrefers : schema.RefersByName) (filePath : String) :
    ∃ read : Schema, read.filePath = filePath ∧ read.ReadFrom root ∧
      read.unplaced = schema.unplaced := by
  have hstructNames := List.forall_mem_append.1 hwell.globalNames.identifiers
  obtain ⟨hglobalDistinct, htableDistinct, -⟩ := List.nodup_append.1 hwell.globalNames.distinct
  obtain ⟨readers, hreaders, hreaderNames, hsameReaders⟩ :=
    Catalog.exists_readFrom Reader.ReadFrom Reader.unplaced (fun _ => rfl)
      hwell.readerNames.distinct hdeclared.readers (by
        intro reader hmem element hreader
        refine ⟨{ reader with line := element.line }, ?_, rfl⟩
        exact ⟨hreader.name, Catalog.forall_names.1 hwell.readerNames.identifiers reader hmem, rfl,
          hreader.namespaceParts, hwell.namespaces reader hmem⟩)
  obtain ⟨globalStructs, hglobals, hglobalNames, hsameStructs⟩ :=
    Catalog.exists_readFrom (Struct.ReadFrom none) Struct.unplaced (fun _ => rfl)
      hglobalDistinct hdeclared.globalStructs (by
        intro struct hmem element hstruct
        obtain ⟨hunowned, hfields⟩ := hwell.globalStructs struct hmem
        have hidentifier := Catalog.forall_names.1 hstructNames.1 struct hmem
        obtain ⟨placed, hread, -, hsame⟩ := hstruct.exists_readFrom hidentifier hfields
        exact ⟨placed, hunowned ▸ hread, hsame⟩)
  obtain ⟨tables, htables, -, hsameTables⟩ :=
    Catalog.exists_readFrom (Table.ReadFrom schema) Table.unplaced (fun _ => rfl)
      htableDistinct hdeclared.tables (by
        intro table hmem element htable
        exact htable.exists_readFrom hwell hmem hrefers)
  refine ⟨⟨filePath, readers, globalStructs, tables⟩, rfl, ?_, ?_⟩
  · exact ⟨hdeclared.kind, hreaders, hglobals,
      htables.imp fun _ _ htable => htable.congr hreaderNames hglobalNames⟩
  · rw [Schema.unplaced, hsameReaders, hsameStructs, hsameTables]
    rfl

/-- Whatever element tree declares a sound schema whose columns can name their structs, it is
accepted and read as this schema, in all but lines and the path, with look-ups that are up to
date. -/
theorem Schema.ofElement_of_declaredBy {schema : Schema} (hverified : schema.verify = .ok schema)
    (hrefers : schema.RefersByName) {root : Element} (hdeclared : schema.DeclaredBy root)
    (filePath : String) :
    ∃ read, Schema.ofElement filePath root = .ok read ∧ read.unplaced = schema.unplaced ∧
      read.rebuild = read := by
  have hwell := schema.verify_eq_ok_iff.1 hverified
  obtain ⟨read, hpath, hread, hsame⟩ := hdeclared.exists_readFrom hwell hrefers filePath
  exact ⟨read, Schema.ofElement_eq_ok_iff.2 ⟨hpath, hread⟩, hsame, hread.rebuild⟩

open Example in
theorem fairTree_declares : fair.DeclaredBy fairTree where
  kind := rfl
  readers := .cons ⟨rfl, by decide⟩ (.cons ⟨rfl, rfl⟩ .nil)
  globalStructs := .cons ⟨rfl, .cons ⟨rfl, rfl, rfl⟩ (.cons ⟨rfl, rfl, rfl⟩ .nil)⟩ .nil
  tables := by
    refine .cons ?_ (.cons ?_ .nil)
    · have hcolumns : List.Forall₂ (Column.DeclaredBy fair fairGoods)
          [column "prices" "list\x7bPrice\x7d" [("readby", "server")], column "stall" "int" [],
            column "mark" "Mark" []] fairGoods.columns.toList :=
        .cons ⟨rfl, ⟨"Price", rfl, by decide⟩, ["server"], by decide, rfl⟩
          (.cons ⟨rfl, ⟨"int", rfl, rfl⟩, [], rfl, rfl⟩
            (.cons ⟨rfl, ⟨"Mark", rfl, rfl⟩, [], rfl, rfl⟩ .nil))
      exact ⟨rfl, rfl, rfl, ⟨[], rfl, rfl⟩, by decide,
        .cons ⟨rfl, .cons ⟨rfl, rfl, rfl⟩ .nil⟩ (.cons ⟨rfl, .nil⟩ .nil), hcolumns⟩
    · have hcolumns : List.Forall₂ (Column.DeclaredBy fair fairStalls)
          [column "name" "string" [], column "fee" "Price" [],
            column "days" "list\x7bstring\x7d" []] fairStalls.columns.toList :=
        .cons ⟨rfl, ⟨"string", rfl, rfl⟩, [], rfl, rfl⟩
          (.cons ⟨rfl, ⟨"Price", rfl, rfl⟩, [], rfl, rfl⟩
            (.cons ⟨rfl, ⟨"string", rfl, by decide⟩, [], rfl, rfl⟩ .nil))
      exact ⟨rfl, rfl, rfl, ⟨["server", "client"], by decide, by decide⟩, by decide, .nil, hcolumns⟩

open Example in
theorem fair_refersByName : fair.RefersByName := by
  have hgoods : ∀ column ∈ fairGoods.columns.toList, column.RefersByName fair fairGoods := by
    refine List.forall_mem_cons.2 ⟨?_, List.forall_mem_cons.2 ⟨?_, List.forall_mem_singleton.2 ?_⟩⟩
    · rintro _ ⟨⟩
      exact ⟨_, rfl, by decide, by decide, rfl⟩
    · rintro _ ⟨⟩
    · rintro _ ⟨⟩
      exact ⟨_, rfl, by decide, by decide, rfl⟩
  have hstalls : ∀ column ∈ fairStalls.columns.toList, column.RefersByName fair fairStalls := by
    refine List.forall_mem_cons.2 ⟨?_, List.forall_mem_cons.2 ⟨?_, List.forall_mem_singleton.2 ?_⟩⟩
    · rintro _ ⟨⟩
    · rintro _ ⟨⟩
      exact ⟨_, rfl, by decide, by decide, by decide, rfl⟩
    · rintro _ ⟨⟩
  exact List.forall_mem_cons.2 ⟨hgoods, List.forall_mem_singleton.2 hstalls⟩

open Example in
theorem fairTree_read :
    fair.verify = .ok fair ∧ fair.RefersByName ∧ fair.DeclaredBy fairTree ∧
      ∃ read, Schema.ofElement "copy.xml" fairTree = .ok read ∧ read.unplaced = fair.unplaced ∧
        read.rebuild = read :=
  ⟨verify_fair, fair_refersByName, fairTree_declares,
    Schema.ofElement_of_declaredBy verify_fair fair_refersByName fairTree_declares "copy.xml"⟩

end TableSchema
