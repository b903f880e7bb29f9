import TableSchema.Proofs.Schema.Declarations
import TableSchema.Proofs.Success

/-!
# What an analysis accepts

An analysis succeeds just for the elements from which a schema can be read, and gives that schema.
Each step is brought to the entry that it reads; `foldlM_eq_ok_iff` does the same for the entries of
a whole catalog.
-/

namespace TableSchema

open Markup (Element)

namespace Analysis

@[simp] theorem require_eq_ok_iff {condition : Bool} {element : Element} {fault : DefinitionFault}
    {success : Unit} : require condition element fault = .ok success ↔ condition = true := by
  cases condition <;> simp [require, reject]

@[simp] theorem requiredAttribute_eq_ok_iff {element : Element} {name value : String} :
    requiredAttribute element name = .ok value ↔ element.attribute? name = some value := by
  unfold requiredAttribute
  cases element.attribute? name <;> simp [reject]

@[simp] theorem return_eq_ok_iff {α : Type} {value result : α} :
    (pure value : Analysis α) = .ok result ↔ result = value := by
  simp [pure, Except.pure, eq_comm]

theorem declaredName_eq_ok_iff {element : Element} {name : String} :
    declaredName element = .ok name ↔
      element.attribute? "name" = some name ∧ Identifier name := by
  simp only [declaredName, bind_eq_ok_iff, requiredAttribute_eq_ok_iff, require_eq_ok_iff,
    return_eq_ok_iff, exists_const]
  constructor
  · rintro ⟨_, hname, hidentifier, rfl⟩
    exact ⟨hname, hidentifier⟩
  · rintro ⟨hname, hidentifier⟩
    exact ⟨name, hname, hidentifier, rfl⟩

/-- Entries that are taken up into a catalog in turn, each under a new name, while all else of the
state stays. -/
theorem foldlM_eq_ok_iff {State α : Type} [Named α] (state : Catalog α → State)
    {declare : State → Element → Analysis State} {entryReadFrom : Element → α → Prop}
    (hdeclare : ∀ (catalog : Catalog α) element result, catalog.Indexed →
      (declare (state catalog) element = .ok result ↔ ∃ entry, entryReadFrom element entry ∧
        Named.name entry ∉ catalog.names ∧ result = state (catalog.add entry)))
    {elements : List Element} {result : State} :
    elements.foldlM declare (state ∅) = .ok result ↔
      ∃ catalog, catalog.ReadFrom entryReadFrom elements ∧ result = state catalog := by
  have hrun (elements : List Element) (catalog : Catalog α) (hkeyed : catalog.Keyed) :
      elements.foldlM declare (state catalog) = .ok result ↔
        ∃ entries, List.Forall₂ entryReadFrom elements entries ∧
          (catalog.names ++ entries.map Named.name).Nodup ∧
          result = state (entries.foldl Catalog.add catalog) := by
    induction elements generalizing catalog with
    | nil => simp [hkeyed.distinct]
    | cons element rest ih =>
        rw [List.foldlM_cons, bind_eq_ok_iff]
        constructor
        · rintro ⟨_, hstep, hrest⟩
          obtain ⟨entry, hentry, hnew, rfl⟩ := (hdeclare catalog element _ hkeyed.indexed).1 hstep
          obtain ⟨entries, hentries, hdistinct, rfl⟩ := (ih _ (hkeyed.add hnew)).1 hrest
          exact ⟨entry :: entries, .cons hentry hentries, by simpa using hdistinct, rfl⟩
        · rintro ⟨_, hall, hdistinct, rfl⟩
          obtain ⟨entry, entries, hentry, hentries, rfl⟩ := List.forall₂_cons_left_iff.1 hall
          have hnew : Named.name entry ∉ catalog.names := fun hmem =>
            (List.nodup_append.1 hdistinct).2.2 _ hmem _ List.mem_cons_self rfl
          refine ⟨_, (hdeclare catalog element _ hkeyed.indexed).2 ⟨entry, hentry, hnew, rfl⟩, ?_⟩
          exact (ih _ (hkeyed.add hnew)).2 ⟨entries, hentries, by simpa using hdistinct, rfl⟩
  rw [hrun elements ∅ ⟨Catalog.indexed_empty, List.nodup_nil⟩]
  constructor
  · rintro ⟨entries, hentries, hdistinct, rfl⟩
    refine ⟨.ofList entries, ⟨⟨Catalog.indexed_ofList entries, ?_⟩, ?_⟩, rfl⟩
    · simpa using hdistinct
    · simpa using hentries
  · rintro ⟨catalog, hcatalog, rfl⟩
    refine ⟨catalog.toList, hcatalog.entries, hcatalog.distinct, ?_⟩
    exact congrArg state hcatalog.indexed.symm

/-! ## Readers -/

theorem readNamespace_eq_ok_iff {element : Element} {parts : List String} :
    readNamespace element = .ok parts ↔
      element.attribute? "namespace" = joined? '.' parts ∧ ∀ part ∈ parts, Identifier part := by
  have hparts : readNamespace element = .ok parts ↔
      partsOf '.' (element.attribute? "namespace") = parts ∧ ∀ part ∈ parts, Identifier part := by
    unfold readNamespace partsOf
    cases element.attribute? "namespace" with
    | none =>
        simp only [Except.ok.injEq, iff_self_and]
        rintro rfl
        simp
    | some text =>
        simp only [bind_eq_ok_iff, require_eq_ok_iff, return_eq_ok_iff, exists_const,
          List.all_eq_true]
        constructor
        · rintro ⟨hidentifiers, rfl⟩
          exact ⟨rfl, hidentifiers⟩
        · rintro ⟨rfl, hidentifiers⟩
          exact ⟨hidentifiers, rfl⟩
  rw [hparts, ← eq_joined?_iff]
  -- No identifier holds a dot.
  constructor
  · rintro ⟨⟨hvalue, -⟩, hidentifiers⟩
    exact ⟨hvalue, hidentifiers⟩
  · rintro ⟨hvalue, hidentifiers⟩
    exact ⟨⟨hvalue, fun part hmem => (hidentifiers part hmem).not_mem rfl⟩, hidentifiers⟩

theorem declareReader_eq_ok_iff {filePath : String} {readers : Catalog Reader}
    (hindexed : readers.Indexed) {element : Element} {result : Schema} :
    declareReader ⟨filePath, readers, ∅, ∅⟩ element = .ok result ↔
      ∃ reader : Reader, reader.ReadFrom element ∧ reader.name ∉ readers.names ∧
        result = ⟨filePath, readers.add reader, ∅, ∅⟩ := by
  simp only [declareReader, bind_eq_ok_iff, declaredName_eq_ok_iff, require_eq_ok_iff,
    readNamespace_eq_ok_iff, return_eq_ok_iff, exists_const, hindexed.not_contains_iff]
  constructor
  · rintro ⟨name, ⟨hname, hidentifier⟩, hnew, parts, ⟨hparts, hidentifiers⟩, rfl⟩
    exact ⟨⟨name, element.line, parts⟩, ⟨hname, hidentifier, rfl, hparts, hidentifiers⟩, hnew, rfl⟩
  · rintro ⟨⟨name, _, parts⟩, ⟨hname, hidentifier, rfl, hparts, hidentifiers⟩, hnew, rfl⟩
    exact ⟨name, ⟨hname, hidentifier⟩, hnew, parts, ⟨hparts, hidentifiers⟩, rfl⟩

theorem declareReaders_eq_ok_iff {filePath : String} {elements : List Element} {result : Schema} :
    elements.foldlM declareReader (Schema.empty filePath) = .ok result ↔
      ∃ readers : Catalog Reader, readers.ReadFrom Reader.ReadFrom elements ∧
        result = ⟨filePath, readers, ∅, ∅⟩ :=
  foldlM_eq_ok_iff (Schema.mk filePath · ∅ ∅) fun _ _ _ hindexed =>
    declareReader_eq_ok_iff hindexed

theorem readReaders_eq_ok_iff {schema : Schema} (hindexed : schema.readers.Indexed)
    {element : Element} {readers : ReaderSet} :
    readReaders schema element = .ok readers ↔ readers.ReadFrom schema element := by
  have hrun (names : List String) (start : ReaderSet) :
      names.foldlM (fun readers name => do
        require (schema.readers.contains name) element (.undefinedReader name)
        return readers.insert name) start = Except.ok readers ↔
      (∀ name ∈ names, name ∈ schema.readers.names) ∧ readers = names.foldl .insert start := by
    induction names generalizing start with
    | nil => simp
    | cons name rest ih =>
        simp only [List.foldlM_cons, bind_eq_ok_iff, require_eq_ok_iff, return_eq_ok_iff,
          exists_const, hindexed.contains_iff, List.forall_mem_cons, List.foldl_cons]
        constructor
        · rintro ⟨_, ⟨hname, rfl⟩, hrest⟩
          exact ⟨⟨hname, ((ih _).1 hrest).1⟩, ((ih _).1 hrest).2⟩
        · rintro ⟨⟨hname, hrest⟩, hreaders⟩
          exact ⟨_, ⟨hname, rfl⟩, (ih _).2 ⟨hrest, hreaders⟩⟩
  have hparts : readReaders schema element = .ok readers ↔ ∃ names,
      partsOf '|' (element.attribute? "readby") = names ∧
        (∀ name ∈ names, name ∈ schema.readers.names) ∧ readers = .ofList names := by
    unfold readReaders partsOf
    cases element.attribute? "readby" with
    | none => simp [ReaderSet.ofList, eq_comm]
    | some text => simpa [ReaderSet.ofList] using hrun (splitText '|' text) ∅
  rw [hparts]
  constructor
  · rintro ⟨names, hnames, hdeclared, hreaders⟩
    obtain ⟨hvalue, hfree⟩ := eq_joined?_iff.2 hnames
    exact ⟨names, hvalue, hreaders, fun name hmem => ⟨hfree name hmem, hdeclared name hmem⟩⟩
  · rintro ⟨names, hvalue, hreaders, hnames⟩
    exact ⟨names, eq_joined?_iff.1 ⟨hvalue, fun name hmem => (hnames name hmem).1⟩,
      fun name hmem => (hnames name hmem).2, hreaders⟩

/-! ## Structs -/

theorem fieldTypeNamed?_eq_some_iff {typeName : String} {type : FieldType} :
    fieldTypeNamed? typeName = some type ↔ typeName = type.name := by
  unfold fieldTypeNamed?
  split <;> cases type <;> simp_all [FieldType.name]

theorem declareField_eq_ok_iff {name : String} {line : Nat} {owner : Option String}
    {fields : Catalog Field} (hindexed : fields.Indexed) {element : Element} {result : Struct} :
    declareField ⟨name, line, owner, fields⟩ element = .ok result ↔
      ∃ field : Field, field.ReadFrom element ∧ field.name ∉ fields.names ∧
        result = ⟨name, line, owner, fields.add field⟩ := by
  simp only [declareField, bind_eq_ok_iff, declaredName_eq_ok_iff, require_eq_ok_iff,
    requiredAttribute_eq_ok_iff, exists_const, hindexed.not_contains_iff, decide_eq_true_eq]
  constructor
  · rintro ⟨hkind, fieldName, ⟨hname, hidentifier⟩, hnew, typeName, htype, hresult⟩
    cases hfound : fieldTypeNamed? typeName with
    | none => simp [hfound, reject] at hresult
    | some type =>
        rw [hfound, return_eq_ok_iff] at hresult
        rw [fieldTypeNamed?_eq_some_iff.1 hfound] at htype
        exact ⟨⟨fieldName, element.line, type⟩, ⟨hkind, hname, hidentifier, rfl, htype⟩, hnew,
          hresult⟩
  · rintro ⟨⟨fieldName, _, type⟩, ⟨hkind, hname, hidentifier, rfl, htype⟩, hnew, hresult⟩
    refine ⟨hkind, fieldName, ⟨hname, hidentifier⟩, hnew, type.name, htype, ?_⟩
    rw [fieldTypeNamed?_eq_some_iff.2 rfl, return_eq_ok_iff]
    exact hresult

theorem readFields_eq_ok_iff {element : Element} {name : String} {owner : Option String}
    {struct : Struct} :
    readFields element name owner = .ok struct ↔
      ∃ fields : Catalog Field, fields.ReadFrom Field.ReadFrom element.children ∧
        struct = ⟨name, element.line, owner, fields⟩ := by
  rw [readFields]
  exact foldlM_eq_ok_iff (Struct.mk name element.line owner) fun _ _ _ hindexed =>
    declareField_eq_ok_iff hindexed

theorem declareStruct_eq_ok_iff {filePath : String} {readers : Catalog Reader}
    {globalStructs : Catalog Struct} (hindexed : globalStructs.Indexed) {element : Element}
    {result : Schema} :
    declareStruct ⟨filePath, readers, globalStructs, ∅⟩ element = .ok result ↔
      ∃ struct : Struct, struct.ReadFrom none element ∧ struct.name ∉ globalStructs.names ∧
        result = ⟨filePath, readers, globalStructs.add struct, ∅⟩ := by
  have hnoTable (name : String) : (∅ : Catalog Table).contains name = false := rfl
  simp only [declareStruct, bind_eq_ok_iff, declaredName_eq_ok_iff, require_eq_ok_iff,
    readFields_eq_ok_iff, return_eq_ok_iff, exists_const, hnoTable, Bool.or_false,
    hindexed.not_contains_iff]
  constructor
  · rintro ⟨name, ⟨hname, hidentifier⟩, hnew, _, ⟨fields, hfields, rfl⟩, rfl⟩
    exact ⟨⟨name, element.line, none, fields⟩, ⟨hname, hidentifier, rfl, rfl, hfields⟩, hnew, rfl⟩
  · rintro ⟨⟨name, _, _, fields⟩, ⟨hname, hidentifier, rfl, rfl, hfields⟩, hnew, rfl⟩
    exact ⟨name, ⟨hname, hidentifier⟩, hnew, _, ⟨fields, hfields, rfl⟩, rfl⟩

theorem declareStructs_eq_ok_iff {filePath : String} {readers : Catalog Reader}
    {elements : List Element} {result : Schema} :
    elements.foldlM declareStruct ⟨filePath, readers, ∅, ∅⟩ = .ok result ↔
      ∃ globalStructs : Catalog Struct, globalStructs.ReadFrom (Struct.ReadFrom none) elements ∧
        result = ⟨filePath, readers, globalStructs, ∅⟩ :=
  foldlM_eq_ok_iff (Schema.mk filePath readers · ∅) fun _ _ _ hindexed =>
    declareStruct_eq_ok_iff hindexed

theorem declareLocalStruct_eq_ok_iff {table : Table} {localStructs : Catalog Struct}
    (hindexed : localStructs.Indexed) {element : Element} {result : Table} :
    declareLocalStruct { table with localStructs } element = .ok result ↔
      ∃ struct : Struct, struct.LocalReadFrom table.name element ∧
        struct.name ∉ localStructs.names ∧
        result = { table with localStructs := localStructs.add struct } := by
  simp only [declareLocalStruct, bind_eq_ok_iff, declaredName_eq_ok_iff, require_eq_ok_iff,
    readFields_eq_ok_iff, return_eq_ok_iff, exists_const, hindexed.not_contains_iff,
    Bool.not_eq_true', List.contains_eq_mem, decide_eq_false_iff_not]
  constructor
  · rintro ⟨name, ⟨hname, hidentifier⟩, hnew, hreserved, _, ⟨fields, hfields, rfl⟩, rfl⟩
    exact ⟨⟨name, element.line, some table.name, fields⟩,
      ⟨⟨hname, hidentifier, rfl, rfl, hfields⟩, hreserved⟩, hnew, rfl⟩
  · rintro ⟨⟨name, _, _, fields⟩, ⟨⟨hname, hidentifier, rfl, rfl, hfields⟩, hreserved⟩, hnew, rfl⟩
    exact ⟨name, ⟨hname, hidentifier⟩, hnew, hreserved, _, ⟨fields, hfields, rfl⟩, rfl⟩

/-- The columns among the children are passed over, and nothing but structs and columns may stand
there. -/
theorem declareLocalStructs_eq_ok_iff_foldlM {table : Table} {children : List Element}
    {result : Table} :
    declareLocalStructs table children = .ok result ↔
      (∀ child ∈ children, child.name = "struct" ∨ child.name = "col") ∧
        (children.filter (·.name = "struct")).foldlM declareLocalStruct table = .ok result := by
  unfold declareLocalStructs
  induction children generalizing table with
  | nil => simp
  | cons child rest ih =>
      rw [List.foldlM_cons, bind_eq_ok_iff, List.forall_mem_cons, List.filter_cons]
      by_cases hstruct : child.name = "struct"
      case pos =>
        rw [if_pos (decide_eq_true hstruct), List.foldlM_cons, bind_eq_ok_iff]
        simp only [hstruct, if_true, true_or, true_and, ih]
        grind
      case neg =>
        rw [if_neg (by simpa using hstruct)]
        simp only [hstruct, if_false, false_or, bind_eq_ok_iff, require_eq_ok_iff, exists_const,
          decide_eq_true_eq, return_eq_ok_iff, ih]
        grind

theorem declareLocalStructs_eq_ok_iff {name : String} {element : Element} {result : Table} :
    declareLocalStructs (Table.named name element.line) element.children = .ok result ↔
      (∀ child ∈ element.children, child.name = "struct" ∨ child.name = "col") ∧
        ∃ localStructs : Catalog Struct,
          localStructs.ReadFrom (Struct.LocalReadFrom name) (element.childrenNamed "struct") ∧
          result = { Table.named name element.line with localStructs } := by
  rw [declareLocalStructs_eq_ok_iff_foldlM]
  refine and_congr_right fun _ => ?_
  exact foldlM_eq_ok_iff (fun localStructs => { Table.named name element.line with localStructs })
    fun _ _ _ hindexed => declareLocalStruct_eq_ok_iff hindexed

/-! ## Columns -/

theorem valueTypeNamed?_eq_some_iff {schema : Schema} {table : Table}
    (hglobals : schema.globalStructs.Keyed) (hlocals : table.localStructs.Keyed) {name : String}
    {type : ColumnType} {structRef : Option StructRef} :
    valueTypeNamed? schema table name = some (type, structRef) ↔
      schema.ValueTypeNamed table name type structRef := by
  have hlocal {i : Nat} : table.localStructs.position? name = some i ↔
      table.localStructs.names[i]? = some name :=
    hlocals.indexed.position?_eq_some_iff hlocals.distinct
  have hglobal {i : Nat} : schema.globalStructs.position? name = some i ↔
      schema.globalStructs.names[i]? = some name :=
    hglobals.indexed.position?_eq_some_iff hglobals.distinct
  have hnone : table.localStructs.position? name = none ↔ name ∉ table.localStructs.names := by
    rw [← hlocals.indexed.contains_iff, Catalog.contains, Option.not_isSome_iff_eq_none]
  unfold valueTypeNamed?
  split
  case h_1 =>
    constructor
    · rintro ⟨⟩
      exact .int rfl
    · rintro (_ | hname | ⟨hint, _, _⟩)
      · rfl
      · exact absurd hname (by decide)
      · exact absurd rfl hint
  case h_2 =>
    constructor
    · rintro ⟨⟩
      exact .string rfl
    · rintro (hname | _ | ⟨_, hstring, _⟩)
      · exact absurd hname (by decide)
      · rfl
      · exact absurd rfl hstring
  case h_3 hint hstring =>
    constructor
    · intro hfound
      split at hfound
      next i hposition =>
        cases hfound
        exact .struct hint hstring (hlocal.1 hposition)
      next i habsent hposition =>
        cases hfound
        exact .struct hint hstring ⟨hnone.1 habsent, hglobal.1 hposition⟩
      next => cases hfound
    · rintro (hname | hname | @⟨ref, _, _, hselects⟩)
      · exact absurd hname hint
      · exact absurd hname hstring
      · cases ref with
        | ofTable i => rw [hlocal.2 hselects]
        | ofSchema i => rw [hnone.2 hselects.1, hglobal.2 hselects.2]

theorem declareColumn_eq_ok_iff {schema : Schema} {table : Table} {columns : Catalog Column}
    (hreaders : schema.readers.Indexed) (hglobals : schema.globalStructs.Keyed)
    (hlocals : table.localStructs.Keyed) (hindexed : columns.Indexed) {element : Element}
    {result : Table} :
    declareColumn schema { table with columns } element = .ok result ↔
      ∃ column : Column, column.ReadFrom schema table element ∧ column.name ∉ columns.names ∧
        result = { table with columns := columns.add column } := by
  have hsame : valueTypeNamed? schema { table with columns } = valueTypeNamed? schema table := rfl
  simp only [declareColumn, bind_eq_ok_iff, declaredName_eq_ok_iff, require_eq_ok_iff,
    requiredAttribute_eq_ok_iff, exists_const, hindexed.not_contains_iff, hsame]
  constructor
  · rintro ⟨name, ⟨hname, hidentifier⟩, hnew, typeName, htype, hresult⟩
    split at hresult
    next => simp [reject] at hresult
    next valueType structRef hfound =>
      simp only [bind_eq_ok_iff, readReaders_eq_ok_iff hreaders, return_eq_ok_iff] at hresult
      obtain ⟨readers, hread, rfl⟩ := hresult
      rw [valueTypeNamed?_eq_some_iff hglobals hlocals] at hfound
      refine ⟨_, ⟨hname, hidentifier, rfl, ⟨typeName, htype, ?_⟩, hread⟩, hnew, rfl⟩
      cases hlist : elementTypeName? typeName with
      | none => exact .inl ⟨rfl, rfl, by simpa [hlist] using hfound⟩
      | some inner => exact .inr ⟨inner, valueType, rfl, rfl, rfl, by simpa [hlist] using hfound⟩
  · rintro ⟨⟨name, _, type, listType, structRef, readers⟩,
      ⟨hname, hidentifier, rfl, ⟨typeName, htype, hvalue⟩, hread⟩, hnew, rfl⟩
    refine ⟨name, ⟨hname, hidentifier⟩, hnew, typeName, htype, ?_⟩
    rcases hvalue with ⟨hlist, rfl, hvalue⟩ | ⟨inner, valueType, hlist, rfl, rfl, hvalue⟩
    all_goals
      rw [← valueTypeNamed?_eq_some_iff hglobals hlocals] at hvalue
      simp only [hlist, Option.getD_none, Option.getD_some, hvalue, bind_eq_ok_iff,
        readReaders_eq_ok_iff hreaders, return_eq_ok_iff]
      exact ⟨readers, hread, rfl⟩

theorem declareColumns_eq_ok_iff (schema : Schema) (table : Table)
    (hreaders : schema.readers.Indexed) (hglobals : schema.globalStructs.Keyed)
    (hlocals : table.localStructs.Keyed) (hnone : table.columns = ∅) {elements : List Element}
    {result : Table} :
    elements.foldlM (declareColumn schema) table = .ok result ↔
      ∃ columns : Catalog Column, columns.ReadFrom (Column.ReadFrom schema table) elements ∧
        result = { table with columns } := by
  have hstart : table = { table with columns := ∅ } := by rw [← hnone]
  conv_lhs => rw [hstart]
  exact foldlM_eq_ok_iff (fun columns => { table with columns }) fun _ _ _ hindexed =>
    declareColumn_eq_ok_iff hreaders hglobals hlocals hindexed

/-! ## Tables -/

theorem readKey_eq_ok_iff {element : Element} {keyType : KeyType} {keyName : String} :
    readKey element = .ok (keyType, keyName) ↔
      (element.attribute? "key", element.attribute? "setkey") =
        match keyType with
        | .single => (some keyName, none)
        | .set => (none, some keyName) := by
  unfold readKey
  cases element.attribute? "key" <;> cases element.attribute? "setkey" <;> cases keyType <;>
    simp [reject]

/-- The key is found at the place of the column that bears its name. -/
theorem locateKey_eq (table : Table) (hdistinct : table.columns.names.Nodup) {column : Column}
    {i : Nat} (hcolumn : table.columns.toList[i]? = some column)
    (hname : column.name = table.keyName) :
    table.locateKey = { table with keyColumnIndex := i } := by
  have hposition : table.keyPosition? = some i := by
    refine (Catalog.findIdx?_name_eq_some_iff hdistinct).2 ?_
    rw [List.getElem?_map, hcolumn, Option.map_some]
    exact congrArg some hname
  rw [Table.locateKey_eq, hposition, Option.getD_some]

theorem declareTable_eq_ok_iff (schema : Schema) (hreaders : schema.readers.Indexed)
    (hglobals : schema.globalStructs.Keyed) {tables : Catalog Table} (hindexed : tables.Indexed)
    {element : Element} {result : Schema} :
    declareTable { schema with tables } element = .ok result ↔
      ∃ table : Table, table.ReadFrom schema element ∧ table.name ∉ tables.names ∧
        result = { schema with tables := tables.add table } := by
  have hnew {name : String} :
      (!(tables.contains name || schema.globalStructs.contains name)) = true ↔
        name ∉ tables.names ∧ name ∉ schema.globalStructs.names := by
    rw [Bool.not_or, Bool.and_eq_true, hindexed.not_contains_iff,
      hglobals.indexed.not_contains_iff]
  simp only [declareTable, bind_eq_ok_iff, declaredName_eq_ok_iff, require_eq_ok_iff, exists_const,
    hnew, declareLocalStructs_eq_ok_iff]
  constructor
  · rintro ⟨name, ⟨hname, hidentifier⟩, ⟨hnew, hapart⟩, _, ⟨hkinds, localStructs, hlocals, rfl⟩,
      _, hfold, ⟨keyType, keyName⟩, hkey, hresult⟩
    obtain ⟨columns, hcolumns, rfl⟩ := (declareColumns_eq_ok_iff { schema with tables }
      { Table.named name element.line with localStructs } hreaders hglobals hlocals.toKeyed
      rfl).1 hfold
    dsimp only at hresult
    cases hlookup : (columns.lookup keyName).toOption with
    | none => simp [hlookup, reject] at hresult
    | some key =>
        obtain ⟨hmem, hkeyName⟩ := hcolumns.lookup_eq_some_iff.1 hlookup
        simp only [hlookup, bind_eq_ok_iff, require_eq_ok_iff, requiredAttribute_eq_ok_iff,
          @readReaders_eq_ok_iff { schema with tables } hreaders, return_eq_ok_iff, exists_const]
          at hresult
        obtain ⟨htype, fileName, hfile, readers, hread, rfl⟩ := hresult
        obtain ⟨i, hi⟩ := List.mem_iff_getElem?.1 hmem
        rw [locateKey_eq _ hcolumns.distinct hi hkeyName]
        refine ⟨⟨name, element.line, fileName, keyType, keyName, i, readers, localStructs, columns⟩,
          ⟨hname, hidentifier, rfl, hapart, hkinds, hlocals, hcolumns.imp ?_,
            readKey_eq_ok_iff.1 hkey, ⟨key, hi, hkeyName, htype⟩, hfile, hread⟩, hnew, rfl⟩
        intro child column hcolumn
        exact hcolumn.congr rfl rfl rfl
  · rintro ⟨⟨name, _, fileName, keyType, keyName, i, readers, localStructs, columns⟩,
      ⟨hname, hidentifier, rfl, hapart, hkinds, hlocals, hcolumns, hkey, ⟨key, hi, hkeyName, htype⟩,
        hfile, hread⟩, hnew, rfl⟩
    have hfold := (declareColumns_eq_ok_iff { schema with tables }
      { Table.named name element.line with localStructs } hreaders hglobals hlocals.toKeyed
      rfl).2 ⟨columns, hcolumns.imp fun child column hcolumn => hcolumn.congr rfl rfl rfl, rfl⟩
    refine ⟨name, ⟨hname, hidentifier⟩, ⟨hnew, hapart⟩, _, ⟨hkinds, localStructs, hlocals, rfl⟩, _,
      hfold, (keyType, keyName), readKey_eq_ok_iff.2 hkey, ?_⟩
    have hlookup : (columns.lookup keyName).toOption = some key :=
      hcolumns.lookup_eq_some_iff.2 ⟨List.mem_of_getElem? hi, hkeyName⟩
    simp only [hlookup, bind_eq_ok_iff, require_eq_ok_iff, requiredAttribute_eq_ok_iff,
      @readReaders_eq_ok_iff { schema with tables } hreaders, return_eq_ok_iff, exists_const]
    have hlocate := locateKey_eq { Table.named name element.line with
      fileName, keyType, keyName, readers, localStructs, columns } hcolumns.distinct hi hkeyName
    exact ⟨htype, fileName, hfile, readers, hread, congrArg _ (congrArg _ hlocate.symm)⟩

theorem declareTables_eq_ok_iff {filePath : String} {readers : Catalog Reader}
    {globalStructs : Catalog Struct} (hreaders : readers.Indexed) (hglobals : globalStructs.Keyed)
    {elements : List Element} {result : Schema} :
    elements.foldlM declareTable ⟨filePath, readers, globalStructs, ∅⟩ = .ok result ↔
      ∃ tables : Catalog Table,
        tables.ReadFrom (Table.ReadFrom ⟨filePath, readers, globalStructs, tables⟩) elements ∧
          result = ⟨filePath, readers, globalStructs, tables⟩ := by
  let before : Schema := ⟨filePath, readers, globalStructs, ∅⟩
  refine (foldlM_eq_ok_iff (Schema.mk filePath readers globalStructs) fun _ _ _ hindexed =>
    declareTable_eq_ok_iff before hreaders hglobals hindexed).trans ?_
  -- The tables that are already taken up play no part in how a table is read.
  refine exists_congr fun tables => and_congr_left fun _ => ?_
  constructor
  · exact fun hread => hread.imp fun _ _ htable => htable.congr rfl rfl
  · exact fun hread => hread.imp fun _ _ htable => htable.congr rfl rfl

/-! ## Schemas -/

/-- An analysis gives a schema just if it can be read from the element. -/
theorem readSchema_eq_ok_iff {filePath : String} {root : Element} {schema : Schema} :
    readSchema filePath root = .ok schema ↔
      schema.filePath = filePath ∧ schema.ReadFrom root := by
  simp only [readSchema, bind_eq_ok_iff, require_eq_ok_iff, exists_const, decide_eq_true_eq,
    declareReaders_eq_ok_iff]
  constructor
  · rintro ⟨hkind, _, ⟨readers, hreaders, rfl⟩, _, hstructs, hrun⟩
    obtain ⟨globalStructs, hglobals, rfl⟩ := declareStructs_eq_ok_iff.1 hstructs
    obtain ⟨tables, htables, rfl⟩ :=
      (declareTables_eq_ok_iff hreaders.indexed hglobals.toKeyed).1 hrun
    exact ⟨rfl, hkind, hreaders, hglobals, htables⟩
  · rintro ⟨rfl, hkind, hreaders, hglobals, htables⟩
    exact ⟨hkind, _, ⟨schema.readers, hreaders, rfl⟩, _,
      declareStructs_eq_ok_iff.2 ⟨schema.globalStructs, hglobals, rfl⟩,
      (declareTables_eq_ok_iff hreaders.indexed hglobals.toKeyed).2 ⟨schema.tables, htables, rfl⟩⟩

end Analysis

theorem Schema.ofElement_eq_ok_iff {filePath : String} {root : Element} {schema : Schema} :
    Schema.ofElement filePath root = .ok schema ↔
      schema.filePath = filePath ∧ schema.ReadFrom root := by
  rw [← Analysis.readSchema_eq_ok_iff, Schema.ofElement]
  cases Analysis.readSchema filePath root <;> simp [Except.mapError]

/-- The same for a document, which must be one element. -/
theorem Schema.ofDocument_eq_ok_iff {readDocument : Markup.DocumentReader}
    {filePath text : String} {schema : Schema} :
    Schema.ofDocument readDocument filePath text = .ok schema ↔
      schema.filePath = filePath ∧
        ∃ root, readDocument text = .ok root ∧ schema.ReadFrom root := by
  rw [Schema.ofDocument]
  cases readDocument text with
  | error e => simp
  | ok root => simp [Schema.ofElement_eq_ok_iff]

end TableSchema
