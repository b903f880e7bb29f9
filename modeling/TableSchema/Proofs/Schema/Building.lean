import Mathlib.Logic.Relation
import TableSchema.Proofs.Schema.Filtering

/-!
# Schemas as they are built

A schema is built from an empty one by additions, views, the placing of keys and fresh look-ups, in
any order and with any names repeated. Every such step leaves all catalogs indexed, so each name is
looked up at the last entry that bears it, and computing the look-ups afresh changes nothing.
-/

namespace TableSchema

/-! ## The last entry of a name -/

namespace Catalog

variable {α : Type} [Named α]

/-- The entry at a place bears the name, and no entry after it does. -/
structure IsLast (catalog : Catalog α) (name : String) (i : Nat) (entry : α) : Prop where
  stands : catalog.toList[i]? = some entry
  bears : Named.name entry = name
  last : ∀ j later, i < j → catalog.toList[j]? = some later → Named.name later ≠ name

/-- Each name is looked up at the last entry that bears it, and names that no entry bears are not
found. -/
structure FindsLast (catalog : Catalog α) : Prop where
  position : ∀ name i, catalog.position? name = some i ↔ ∃ entry, catalog.IsLast name i entry
  found : ∀ name entry, catalog.lookup name = .found entry ↔ ∃ i, catalog.IsLast name i entry
  noPosition : ∀ name, catalog.position? name = none ↔ name ∉ catalog.names
  absent : ∀ name, catalog.lookup name = .absent ↔ name ∉ catalog.names
  inRange : ∀ name, catalog.lookup name ≠ .stale

theorem isLast_add_iff {catalog : Catalog α} {last entry : α} {name : String} {i : Nat} :
    (catalog.add last).IsLast name i entry ↔
      if name = Named.name last then i = catalog.toList.length ∧ entry = last
      else catalog.IsLast name i entry := by
  have hplace : (catalog.toList ++ [last])[catalog.toList.length]? = some last := by simp
  split
  next hname =>
    constructor
    · intro hlast
      have hentry := hlast.stands
      rw [toList_add] at hentry
      -- A place before the new entry would not be the last of the name.
      have hend : ¬ i < catalog.toList.length := fun hlt =>
        hlast.last _ last hlt (by rw [toList_add, hplace]) hname.symm
      grind
    · rintro ⟨rfl, rfl⟩
      refine ⟨by rw [toList_add, hplace], hname.symm, ?_⟩
      intro j later hj hlater
      rw [toList_add] at hlater
      grind
  next hname =>
    constructor
    · rintro ⟨hentry, hbears, hlast⟩
      simp only [toList_add] at hentry hlast
      refine ⟨by grind, hbears, ?_⟩
      intro j later hj hlater
      exact hlast j later hj (by grind)
    · rintro ⟨hentry, hbears, hlast⟩
      refine ⟨by rw [toList_add]; grind, hbears, ?_⟩
      intro j later hj hlater
      rw [toList_add] at hlater
      grind

theorem Indexed.position?_eq_some_iff_isLast {catalog : Catalog α} (hindexed : catalog.Indexed)
    {name : String} {i : Nat} :
    catalog.position? name = some i ↔ ∃ entry, catalog.IsLast name i entry := by
  rw [← hindexed, rebuild]
  generalize catalog.toList = entries
  induction entries using List.reverseRecOn with
  | nil =>
      constructor
      · intro hposition
        cases hposition
      · rintro ⟨entry, hlast⟩
        cases hlast.stands
  | append_singleton entries last ih =>
      simp only [ofList_concat, position?_add, isLast_add_iff]
      split
      next => simp [eq_comm]
      next => exact ih

theorem Indexed.findsLast {catalog : Catalog α} (hindexed : catalog.Indexed) :
    catalog.FindsLast := by
  have hposition (name : String) : catalog.position? name = none ↔ name ∉ catalog.names := by
    rw [← hindexed.not_contains_iff, contains, Bool.not_eq_true', Option.isSome_eq_false_iff,
      Option.isNone_iff_eq_none]
  constructor
  case position => exact fun name i => hindexed.position?_eq_some_iff_isLast
  case noPosition => exact hposition
  case inRange => exact fun name => hindexed.lookup_ne_stale
  case found =>
    intro name entry
    rw [lookup_eq_found_iff]
    refine exists_congr fun i => ?_
    rw [hindexed.position?_eq_some_iff_isLast]
    constructor
    · rintro ⟨⟨other, hlast⟩, hentry⟩
      obtain rfl := Option.some.inj (hlast.stands.symm.trans hentry)
      exact hlast
    · intro hlast
      exact ⟨⟨entry, hlast⟩, hlast.stands⟩
  case absent =>
    intro name
    rw [← hposition, lookup]
    cases hplace : catalog.position? name with
    | none => simp
    | some i => cases hentry : catalog.toList[i]? <;> simp [hentry]

/-! ## Changing an entry in its place -/

theorem positions_ofList (entries : List α) :
    (ofList entries).positions = (entries.map Named.name).zipIdx.reverse := by
  induction entries using List.reverseRecOn with
  | nil => rfl
  | append_singleton entries last ih =>
      rw [ofList_concat, add]
      simp [ih, List.zipIdx_append]

theorem indexed_iff_positions {catalog : Catalog α} :
    catalog.Indexed ↔ catalog.positions = catalog.names.zipIdx.reverse := by
  rw [names, ← positions_ofList]
  constructor
  · intro hindexed
    exact congrArg positions hindexed.symm
  · intro hpositions
    rw [Indexed, rebuild]
    obtain ⟨entries, positions⟩ := catalog
    obtain rfl : positions = (ofList entries).positions := hpositions
    exact congrArg (Catalog.mk · _) (toList_ofList entries)

/-- An entry may be replaced by another of its name. -/
theorem Indexed.modify {catalog : Catalog α} (hindexed : catalog.Indexed) {i : Nat}
    {entry other : α} (hentry : catalog.toList[i]? = some entry)
    (hname : Named.name other = Named.name entry) :
    (catalog.modify i fun _ => other).Indexed := by
  have hnames : (catalog.modify i fun _ => other).names = catalog.names := by
    refine List.ext_getElem? fun j => ?_
    rw [names, names, Catalog.modify, List.getElem?_map, List.getElem?_map, List.getElem?_modify]
    rcases eq_or_ne i j with rfl | hne
    · simp [hentry, hname]
    · simp [hne]
  rw [indexed_iff_positions, hnames]
  exact indexed_iff_positions.1 hindexed

omit [Named α] in
theorem mem_modify {catalog : Catalog α} {i : Nat} {other x : α}
    (hmem : x ∈ (catalog.modify i fun _ => other).toList) : x = other ∨ x ∈ catalog.toList := by
  obtain ⟨j, hx⟩ := List.mem_iff_getElem?.1 hmem
  rw [Catalog.modify, List.getElem?_modify] at hx
  rcases eq_or_ne i j with rfl | hne
  · obtain ⟨_, -, rfl⟩ := Option.map_eq_some_iff.1 hx
    exact .inl (if_pos rfl)
  · exact .inr (List.mem_of_getElem? (by simpa [hne] using hx))

end Catalog

/-! ## Steps -/

/-- A step in the building of a struct. -/
inductive Struct.Step : Struct → Struct → Prop where
  | addField (struct : Struct) (field : Field) :
      Step struct { struct with fields := struct.fields.add field }
  | rebuild (struct : Struct) : Step struct struct.rebuild

/-- A struct that came from one without fields. -/
def Struct.Built (struct : Struct) : Prop :=
  ∃ name line owner, Relation.ReflTransGen Struct.Step ⟨name, line, owner, ∅⟩ struct

/-- A step in the building of a table. Names may repeat, and what is no collection may be set to
anything. -/
inductive Table.Step : Table → Table → Prop where
  | addColumn (table : Table) (column : Column) :
      Step table { table with columns := table.columns.add column }
  | addLocalStruct (table : Table) {struct : Struct} (hbuilt : struct.Built) :
      Step table { table with localStructs := table.localStructs.add struct }
  | changeLocalStruct (table : Table) {i : Nat} {struct changed : Struct}
      (hstruct : table.localStructs.toList[i]? = some struct) (hstep : struct.Step changed) :
      Step table { table with localStructs := table.localStructs.modify i fun _ => changed }
  | describe (table : Table) (fileName keyName : String) (keyType : KeyType)
      (keyColumnIndex : Nat) (readers : ReaderSet) :
      Step table { table with fileName, keyName, keyType, keyColumnIndex, readers }
  | locateKey (table : Table) : Step table table.locateKey
  | rebuild (table : Table) : Step table table.rebuild

/-- A table that came from one without structs and columns. -/
def Table.Built (table : Table) : Prop :=
  ∃ name line, Relation.ReflTransGen Table.Step (Table.named name line) table

/-- A step in the building of a schema, to which taking the view for a reader counts. -/
inductive Schema.Step : Schema → Schema → Prop where
  | addReader (schema : Schema) (reader : Reader) :
      Step schema { schema with readers := schema.readers.add reader }
  | addGlobalStruct (schema : Schema) {struct : Struct} (hbuilt : struct.Built) :
      Step schema { schema with globalStructs := schema.globalStructs.add struct }
  | addTable (schema : Schema) {table : Table} (hbuilt : table.Built) :
      Step schema { schema with tables := schema.tables.add table }
  | changeGlobalStruct (schema : Schema) {i : Nat} {struct changed : Struct}
      (hstruct : schema.globalStructs.toList[i]? = some struct) (hstep : struct.Step changed) :
      Step schema { schema with globalStructs := schema.globalStructs.modify i fun _ => changed }
  | changeTable (schema : Schema) {i : Nat} {table changed : Table}
      (htable : schema.tables.toList[i]? = some table) (hstep : table.Step changed) :
      Step schema { schema with tables := schema.tables.modify i fun _ => changed }
  | view {schema view : Schema} {reader : String} (hview : schema.viewFor reader = .ok view) :
      Step schema view
  | rebuild (schema : Schema) : Step schema schema.rebuild

/-- A schema that came from an empty one. -/
def Schema.Built (schema : Schema) : Prop :=
  ∃ filePath, Relation.ReflTransGen Schema.Step (Schema.empty filePath) schema

/-! ## What holds of all catalogs -/

/-- All catalogs of a table have the property. -/
structure Table.Throughout (property : ∀ {α : Type} [Named α], Catalog α → Prop) (table : Table) :
    Prop where
  localStructs : property table.localStructs
  fields : ∀ struct ∈ table.localStructs.toList, property struct.fields
  columns : property table.columns

/-- All catalogs of a schema have the property, those of its structs and tables included. -/
structure Schema.Throughout (property : ∀ {α : Type} [Named α], Catalog α → Prop)
    (schema : Schema) : Prop where
  readers : property schema.readers
  globalStructs : property schema.globalStructs
  fields : ∀ struct ∈ schema.globalStructs.toList, property struct.fields
  tables : property schema.tables
  tableParts : ∀ table ∈ schema.tables.toList, table.Throughout property

namespace Struct

variable {struct other : Struct}

theorem Step.name_eq (hstep : struct.Step other) : other.name = struct.name := by
  cases hstep with
  | addField => rfl
  | rebuild => rfl

theorem Step.indexed (hstep : struct.Step other) (hindexed : struct.fields.Indexed) :
    other.fields.Indexed := by
  cases hstep with
  | addField field => exact hindexed.add field
  | rebuild => exact Catalog.indexed_rebuild _

theorem Built.indexed (hbuilt : struct.Built) : struct.fields.Indexed := by
  obtain ⟨name, line, owner, hsteps⟩ := hbuilt
  induction hsteps with
  | refl => exact Catalog.indexed_empty
  | tail _ hstep ih => exact hstep.indexed ih

theorem indexed_of_mem_rebuilt (structs : List Struct) :
    ∀ struct ∈ (Catalog.ofList (structs.map rebuild)).toList, struct.fields.Indexed := by
  rw [Catalog.toList_ofList, List.forall_mem_map]
  exact fun original _ => Catalog.indexed_rebuild original.fields

end Struct

namespace Table

variable {table other : Table}

theorem throughout_rebuild (table : Table) : table.rebuild.Throughout Catalog.Indexed where
  localStructs := Catalog.indexed_ofList _
  columns := Catalog.indexed_rebuild _
  fields := Struct.indexed_of_mem_rebuilt _

theorem Step.name_eq (hstep : table.Step other) : other.name = table.name := by
  cases hstep with
  | addColumn => rfl
  | addLocalStruct => rfl
  | changeLocalStruct => rfl
  | describe => rfl
  | locateKey => rw [locateKey_eq]
  | rebuild => rfl

theorem Step.throughout (hstep : table.Step other) (hindexed : table.Throughout Catalog.Indexed) :
    other.Throughout Catalog.Indexed := by
  obtain ⟨hstructs, hfields, hcolumns⟩ := hindexed
  cases hstep with
  | addColumn column => exact ⟨hstructs, hfields, hcolumns.add column⟩
  | addLocalStruct hbuilt =>
      refine ⟨hstructs.add _, ?_, hcolumns⟩
      exact List.forall_mem_append.2 ⟨hfields, List.forall_mem_singleton.2 hbuilt.indexed⟩
  | changeLocalStruct hstruct hchange =>
      refine ⟨hstructs.modify hstruct hchange.name_eq, ?_, hcolumns⟩
      intro struct hmem
      rcases Catalog.mem_modify hmem with rfl | hmem
      · exact hchange.indexed (hfields _ (List.mem_of_getElem? hstruct))
      · exact hfields struct hmem
  | describe => exact ⟨hstructs, hfields, hcolumns⟩
  | locateKey =>
      rw [locateKey_eq]
      exact ⟨hstructs, hfields, hcolumns⟩
  | rebuild => exact table.throughout_rebuild

theorem Built.throughout (hbuilt : table.Built) : table.Throughout Catalog.Indexed := by
  obtain ⟨name, line, hsteps⟩ := hbuilt
  induction hsteps with
  | refl => exact ⟨Catalog.indexed_empty, by simp [named], Catalog.indexed_empty⟩
  | tail _ hstep ih => exact hstep.throughout ih

theorem Throughout.rebuild_eq (hindexed : table.Throughout Catalog.Indexed) :
    table.rebuild = table := by
  have hfields : ∀ struct ∈ table.localStructs.toList, struct.rebuild = struct := by
    intro struct hmem
    rw [Struct.rebuild, hindexed.fields struct hmem]
  rw [rebuild, hindexed.localStructs.ofList_map hfields, hindexed.columns]

end Table

namespace Schema

variable {schema other : Schema}

theorem throughout_rebuild (schema : Schema) : schema.rebuild.Throughout Catalog.Indexed where
  readers := Catalog.indexed_rebuild _
  globalStructs := Catalog.indexed_ofList _
  tables := Catalog.indexed_ofList _
  fields := Struct.indexed_of_mem_rebuilt _
  tableParts := by
    rw [rebuild, Catalog.toList_ofList, List.forall_mem_map]
    exact fun original _ => original.throughout_rebuild

theorem eq_view_of_viewFor {view : Schema} {reader : String}
    (hview : schema.viewFor reader = .ok view) : view = schema.view reader := by
  unfold viewFor at hview
  cases hfound : schema.readers.lookup reader with
  | absent => simp [hfound] at hview
  | stale => simp [hfound] at hview
  | found declared =>
      rw [hfound, Except.ok.injEq] at hview
      exact hview.symm

theorem Step.throughout (hstep : schema.Step other)
    (hindexed : schema.Throughout Catalog.Indexed) : other.Throughout Catalog.Indexed := by
  obtain ⟨hreaders, hstructs, hfields, htables, hparts⟩ := hindexed
  cases hstep with
  | addReader reader => exact ⟨hreaders.add reader, hstructs, hfields, htables, hparts⟩
  | addGlobalStruct hbuilt =>
      refine ⟨hreaders, hstructs.add _, ?_, htables, hparts⟩
      exact List.forall_mem_append.2 ⟨hfields, List.forall_mem_singleton.2 hbuilt.indexed⟩
  | addTable hbuilt =>
      refine ⟨hreaders, hstructs, hfields, htables.add _, ?_⟩
      exact List.forall_mem_append.2 ⟨hparts, List.forall_mem_singleton.2 hbuilt.throughout⟩
  | changeGlobalStruct hstruct hchange =>
      refine ⟨hreaders, hstructs.modify hstruct hchange.name_eq, ?_, htables, hparts⟩
      intro struct hmem
      rcases Catalog.mem_modify hmem with rfl | hmem
      · exact hchange.indexed (hfields _ (List.mem_of_getElem? hstruct))
      · exact hfields struct hmem
  | changeTable htable hchange =>
      refine ⟨hreaders, hstructs, hfields, htables.modify htable hchange.name_eq, ?_⟩
      intro table hmem
      rcases Catalog.mem_modify hmem with rfl | hmem
      · exact hchange.throughout (hparts _ (List.mem_of_getElem? htable))
      · exact hparts table hmem
  | view hview =>
      rw [eq_view_of_viewFor hview, ← view_rebuild]
      exact throughout_rebuild _
  | rebuild => exact schema.throughout_rebuild

theorem Built.throughout (hbuilt : schema.Built) : schema.Throughout Catalog.Indexed := by
  obtain ⟨filePath, hsteps⟩ := hbuilt
  induction hsteps with
  | refl =>
      exact ⟨Catalog.indexed_empty, Catalog.indexed_empty, by simp [empty], Catalog.indexed_empty,
        by simp [empty]⟩
  | tail _ hstep ih => exact hstep.throughout ih

theorem Throughout.rebuild_eq (hindexed : schema.Throughout Catalog.Indexed) :
    schema.rebuild = schema := by
  have hfields : ∀ struct ∈ schema.globalStructs.toList, struct.rebuild = struct := by
    intro struct hmem
    rw [Struct.rebuild, hindexed.fields struct hmem]
  have hparts : ∀ table ∈ schema.tables.toList, table.rebuild = table := fun table hmem =>
    (hindexed.tableParts table hmem).rebuild_eq
  rw [rebuild, hindexed.readers, hindexed.globalStructs.ofList_map hfields,
    hindexed.tables.ofList_map hparts]

theorem Throughout.findsLast (hindexed : schema.Throughout Catalog.Indexed) :
    schema.Throughout Catalog.FindsLast where
  readers := hindexed.readers.findsLast
  globalStructs := hindexed.globalStructs.findsLast
  fields := fun struct hmem => (hindexed.fields struct hmem).findsLast
  tables := hindexed.tables.findsLast
  tableParts := by
    intro table hmem
    obtain ⟨hstructs, hfields, hcolumns⟩ := hindexed.tableParts table hmem
    exact ⟨hstructs.findsLast, fun struct hstruct => (hfields struct hstruct).findsLast,
      hcolumns.findsLast⟩

end Schema

/-- Whatever steps a schema was built by, each name is looked up at the last entry that bears it,
and look-ups computed afresh are the same. So what a view leaves out is found by no look-up: a table
that is found in the view for a reader is open to the reader, and the columns that are found in it
are shown to the reader. -/
theorem built_findsLast {schema : Schema} (hbuilt : schema.Built) :
    schema.Throughout Catalog.FindsLast ∧ schema.rebuild = schema ∧
      ∀ reader view, schema.viewFor reader = .ok view →
        ∀ tableName table, view.tables.lookup tableName = .found table →
          ∃ original ∈ schema.tables.toList, original.readableBy reader ∧
            table = original.inView reader ∧
            ∀ columnName column, table.columns.lookup columnName = .found column →
              column ∈ original.columns.toList ∧ original.shows reader column := by
  have hindexed := hbuilt.throughout
  refine ⟨hindexed.findsLast, hindexed.rebuild_eq, ?_⟩
  intro reader view hview tableName table htable
  have hviewed := (Schema.Step.view hview).throughout hindexed
  have hkept := (hviewed.tables.mem_of_lookup htable).1
  have hcolumns := (hviewed.tableParts table hkept).columns
  rw [Schema.eq_view_of_viewFor hview, Schema.toList_view_tables] at hkept
  obtain ⟨original, horiginal, rfl⟩ := List.mem_map.1 hkept
  obtain ⟨hmem, hreadable⟩ := List.mem_filter.1 horiginal
  refine ⟨original, hmem, hreadable, rfl, ?_⟩
  intro columnName column hcolumn
  have hshown := (hcolumns.mem_of_lookup hcolumn).1
  rw [Table.toList_inView_columns] at hshown
  exact List.mem_filter.1 hshown

namespace Example

/-- A table with two columns of one name. -/
def lamps (line : Nat) (readers : ReaderSet) : Table :=
  { Table.named "Lamps" line with
    keyName := "id"
    readers
    columns := .ofList
      [⟨"id", line + 1, .int, none, none, ∅⟩, ⟨"id", line + 2, .string, none, none, ∅⟩] }

/-- A schema with two tables of one name, of which the later one is for the server only. -/
def lampStore : Schema where
  filePath := "lamps.xml"
  readers := .ofList [⟨"client", 1, []⟩, ⟨"server", 2, []⟩]
  globalStructs := ∅
  tables := .ofList [lamps 3 ∅, lamps 6 (.ofList ["server"])]

theorem built_lamps (line : Nat) (readers : ReaderSet) : (lamps line readers).Built := by
  refine ⟨"Lamps", line, ?_⟩
  apply Relation.ReflTransGen.tail
  · apply Relation.ReflTransGen.tail
    · exact .single (.addColumn _ ⟨"id", line + 1, .int, none, none, ∅⟩)
    · exact .addColumn _ ⟨"id", line + 2, .string, none, none, ∅⟩
  · exact .describe _ "" "id" .single 0 readers

theorem built_lampStore : lampStore.Built := by
  refine ⟨"lamps.xml", ?_⟩
  apply Relation.ReflTransGen.tail
  · apply Relation.ReflTransGen.tail
    · apply Relation.ReflTransGen.tail
      · exact .single (.addReader _ ⟨"client", 1, []⟩)
      · exact .addReader _ ⟨"server", 2, []⟩
    · exact .addTable _ (built_lamps 3 ∅)
  · exact .addTable _ (built_lamps 6 (.ofList ["server"]))

end Example

open Example in
/-- The later of the two tables is found, and in the view for the client only the other one is. -/
theorem built_findsLast_lampStore :
    lampStore.Built ∧ lampStore.rebuild = lampStore ∧
      lampStore.tables.lookup "Lamps" = .found (lamps 6 (.ofList ["server"])) ∧
      ∃ view, lampStore.viewFor "client" = .ok view ∧
        ∀ table, view.tables.lookup "Lamps" = .found table →
          table = (lamps 3 ∅).inView "client" := by
  obtain ⟨hfinds, hsame, hshown⟩ := built_findsLast built_lampStore
  refine ⟨built_lampStore, hsame, ?_, lampStore.view "client", rfl, ?_⟩
  · refine (hfinds.tables.found "Lamps" _).2 ⟨1, rfl, rfl, ?_⟩
    intro j later hj hlater
    have hlt := (List.getElem?_eq_some_iff.1 hlater).1
    exact absurd hlt (Nat.not_lt.2 hj)
  · intro table htable
    obtain ⟨original, hmem, hreadable, rfl, -⟩ :=
      hshown "client" (lampStore.view "client") rfl "Lamps" table htable
    rcases List.mem_pair.1 hmem with rfl | rfl
    · rfl
    · exact absurd hreadable (by decide)

end TableSchema
