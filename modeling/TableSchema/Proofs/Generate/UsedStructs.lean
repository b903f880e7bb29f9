import Mathlib.Data.List.Basic
import Mathlib.Data.List.Induction
import TableSchema.Generate.CppHeader

/-!
# Structs that columns use

The header of a table includes the headers of the structs of the schema that its columns use. They
are found by their names, each once and in the order in which the columns come to use them.
-/

namespace TableSchema.Generate.Cpp

/-- The names among `used`, each where it first occurs. -/
def firstUses (used : List String) : List String :=
  used.foldl (fun names name => if names.contains name then names else names ++ [name]) []

theorem firstUses_concat (used : List String) (name : String) :
    firstUses (used ++ [name]) =
      if name ∈ firstUses used then firstUses used else firstUses used ++ [name] := by
  simp [firstUses, List.foldl_append]

theorem mem_firstUses {used : List String} {name : String} :
    name ∈ firstUses used ↔ name ∈ used := by
  induction used using List.reverseRecOn with
  | nil => simp [firstUses]
  | append_singleton used last ih =>
      rw [firstUses_concat, List.mem_append, List.mem_singleton]
      split
      next hlast =>
        rw [ih]
        constructor
        · exact .inl
        · rintro (hmem | rfl)
          · exact hmem
          · exact ih.1 hlast
      next => rw [List.mem_append, List.mem_singleton, ih]

/-- A name comes before another just if it is used before it. -/
theorem pairwise_firstUses (used : List String) :
    (firstUses used).Pairwise fun name later => used.idxOf name < used.idxOf later := by
  induction used using List.reverseRecOn with
  | nil => exact .nil
  | append_singleton used last ih =>
      have hkept : (firstUses used).Pairwise fun name later =>
          (used ++ [last]).idxOf name < (used ++ [last]).idxOf later := by
        refine ih.imp_of_mem fun hname hlater hlt => ?_
        rwa [List.idxOf_append_of_mem (mem_firstUses.1 hname),
          List.idxOf_append_of_mem (mem_firstUses.1 hlater)]
      rw [firstUses_concat]
      split
      next => exact hkept
      next hnew =>
        rw [mem_firstUses] at hnew
        refine List.pairwise_append.2 ⟨hkept, List.pairwise_singleton _ _, ?_⟩
        intro name hname later hlater
        obtain rfl := List.mem_singleton.1 hlater
        rw [List.idxOf_append_of_mem (mem_firstUses.1 hname), List.idxOf_append_of_notMem hnew]
        exact Nat.lt_add_right _ (List.idxOf_lt_length_iff.2 (mem_firstUses.1 hname))

/-- The name of the struct of the schema that a column uses. -/
def usedStruct? (schema : Schema) (table : Table) (column : Column) : Option String :=
  ((schema.columnStruct? table column).filter fun struct =>
    column.valueType = .struct && struct.isGlobal).map (·.name)

theorem usedStruct?_eq_some_iff {schema : Schema} {table : Table} {column : Column}
    {name : String} :
    usedStruct? schema table column = some name ↔
      ∃ struct, schema.columnStruct? table column = some struct ∧ column.valueType = .struct ∧
        struct.isGlobal ∧ struct.name = name := by
  simp [usedStruct?, Option.map_eq_some_iff, Option.filter_eq_some_iff, and_assoc]

theorem usedStructs_eq (schema : Schema) (table : Table) :
    usedStructs schema table =
      firstUses (table.columns.toList.filterMap (usedStruct? schema table)) := by
  rw [usedStructs, firstUses, List.foldl_filterMap]
  congr 1
  funext names column
  rw [usedStruct?]
  cases schema.columnStruct? table column with
  | none => rfl
  | some struct =>
      dsimp only
      rw [Option.filter_some]
      by_cases huse : (column.valueType = .struct && struct.isGlobal) <;> simp [huse]

/-- The place of the first column that uses the struct of the schema of a name. -/
def firstUse (schema : Schema) (table : Table) (name : String) : Nat :=
  table.columns.toList.findIdx fun column => usedStruct? schema table column = some name

/-- What comes first among the values of some function has its value first. -/
theorem findIdx_lt_of_idxOf_lt {α β : Type} [DecidableEq β] {f : α → Option β} {entries : List α}
    {value later : β}
    (hlt : (entries.filterMap f).idxOf value < (entries.filterMap f).idxOf later) :
    (entries.findIdx fun entry => f entry = some value) <
      entries.findIdx fun entry => f entry = some later := by
  induction entries with
  | nil => simp at hlt
  | cons entry rest ih =>
      cases hvalue : f entry with
      | none =>
          rw [List.filterMap_cons_none hvalue] at hlt
          simpa [List.findIdx_cons, hvalue] using ih hlt
      | some first =>
          rw [List.filterMap_cons_some hvalue, List.idxOf_cons, List.idxOf_cons] at hlt
          rw [List.findIdx_cons, List.findIdx_cons, hvalue]
          by_cases hlater : first = later
          · simp [hlater] at hlt
          · by_cases hfirst : first = value
            · simp [hfirst, hfirst ▸ hlater]
            · rw [beq_false_of_ne hfirst, beq_false_of_ne hlater] at hlt
              simpa [hfirst, hlater] using ih (Nat.lt_of_succ_lt_succ hlt)

/-- The structs that columns use, in the order of their first use. -/
theorem pairwise_usedStructs (schema : Schema) (table : Table) :
    (usedStructs schema table).Pairwise fun name later =>
      firstUse schema table name < firstUse schema table later := by
  rw [usedStructs_eq]
  exact (pairwise_firstUses _).imp findIdx_lt_of_idxOf_lt

theorem mem_usedStructs_iff {schema : Schema} {table : Table} {name : String} :
    name ∈ usedStructs schema table ↔
      ∃ column ∈ table.columns.toList, usedStruct? schema table column = some name := by
  rw [usedStructs_eq, mem_firstUses, List.mem_filterMap]

end TableSchema.Generate.Cpp
