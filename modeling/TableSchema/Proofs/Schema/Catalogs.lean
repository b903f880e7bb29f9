import Mathlib.Data.List.Induction
import Mathlib.Data.List.Nodup
import TableSchema.Schema.WellFormed

/-!
# Look-ups in catalogs

A catalog is indexed if its positions are those of its own entries. Additions keep it so, and a
look-up then finds just the names that the entries bear.
-/

namespace TableSchema.Catalog

variable {α : Type}

theorem lookup_eq_found_iff {catalog : Catalog α} {name : String} {entry : α} :
    catalog.lookup name = .found entry ↔
      ∃ i, catalog.position? name = some i ∧ catalog.toList[i]? = some entry := by
  unfold lookup
  cases catalog.position? name with
  | none => simp
  | some i => cases hentry : catalog.toList[i]? <;> simp [hentry]

variable [Named α]

theorem ofList_concat (entries : List α) (last : α) :
    ofList (entries ++ [last]) = (ofList entries).add last := by
  simp [ofList]

@[simp] theorem names_ofList (entries : List α) :
    (ofList entries).names = entries.map Named.name := by
  simp [names]

@[simp] theorem names_add (catalog : Catalog α) (entry : α) :
    (catalog.add entry).names = catalog.names ++ [Named.name entry] := by
  simp [names]

@[simp] theorem names_empty : (∅ : Catalog α).names = [] := rfl

theorem names_getElem?_eq_some_iff {catalog : Catalog α} {i : Nat} {name : String} :
    catalog.names[i]? = some name ↔
      ∃ entry, catalog.toList[i]? = some entry ∧ Named.name entry = name := by
  rw [names, List.getElem?_map, Option.map_eq_some_iff]

omit [Named α] in
@[simp] theorem position?_empty (name : String) : (∅ : Catalog α).position? name = none := rfl

theorem position?_add (catalog : Catalog α) (entry : α) (name : String) :
    (catalog.add entry).position? name =
      if name = Named.name entry then some catalog.toList.length else catalog.position? name := by
  rw [position?, add, List.lookup_cons]
  by_cases hname : name = Named.name entry
  · simp [hname]
  · rw [beq_false_of_ne hname, if_neg hname]
    rfl

/-- The positions of the catalog are those of its own entries. -/
def Indexed (catalog : Catalog α) : Prop :=
  catalog.rebuild = catalog

@[simp] theorem indexed_ofList (entries : List α) : (ofList entries).Indexed :=
  rebuild_ofList entries

@[simp] theorem indexed_rebuild (catalog : Catalog α) : catalog.rebuild.Indexed :=
  indexed_ofList catalog.toList

theorem indexed_empty : (∅ : Catalog α).Indexed := rfl

namespace Indexed

variable {catalog : Catalog α} {name : String}

theorem add (hindexed : catalog.Indexed) (entry : α) : (catalog.add entry).Indexed := by
  rw [Indexed, rebuild, toList_add, ofList_concat]
  exact congrArg (·.add entry) hindexed

/-- A catalog is made afresh as it was from entries that a function leaves as they are. -/
theorem ofList_map (hindexed : catalog.Indexed) {f : α → α}
    (hsame : ∀ entry ∈ catalog.toList, f entry = entry) :
    .ofList (catalog.toList.map f) = catalog := by
  rw [List.map_congr_left hsame, List.map_id']
  exact hindexed

/-- The place of a name holds an entry that bears it. -/
theorem names_position? (hindexed : catalog.Indexed) {i : Nat}
    (hposition : catalog.position? name = some i) : catalog.names[i]? = some name := by
  rw [← hindexed, rebuild] at hposition
  rw [names]
  generalize catalog.toList = entries at hposition
  induction entries using List.reverseRecOn with
  | nil => simp [ofList] at hposition
  | append_singleton entries last ih =>
      rw [ofList_concat, position?_add] at hposition
      split at hposition
      next hlast => simp_all
      next =>
        have hname := ih hposition
        have hlt := (List.getElem?_eq_some_iff.1 hname).1
        rw [List.map_append, List.getElem?_append_left hlt, hname]

theorem contains_iff (hindexed : catalog.Indexed) :
    catalog.contains name ↔ name ∈ catalog.names := by
  constructor
  · intro hcontains
    obtain ⟨i, hposition⟩ := Option.isSome_iff_exists.1 hcontains
    exact List.mem_of_getElem? (hindexed.names_position? hposition)
  · intro hmem
    rw [← hindexed, rebuild]
    rw [names] at hmem
    generalize catalog.toList = entries at hmem
    induction entries using List.reverseRecOn with
    | nil => simp at hmem
    | append_singleton entries last ih =>
        rw [ofList_concat, contains, position?_add]
        split
        next => rfl
        next hlast => exact ih (by simpa [hlast] using hmem)

theorem not_contains_iff (hindexed : catalog.Indexed) :
    (!catalog.contains name) = true ↔ name ∉ catalog.names := by
  rw [← hindexed.contains_iff, Bool.not_eq_true', Bool.not_eq_true]

/-- A name that some entry bears is found, with an entry that bears it. -/
theorem exists_lookup (hindexed : catalog.Indexed) (hmem : name ∈ catalog.names) :
    ∃ entry, catalog.lookup name = .found entry ∧ Named.name entry = name := by
  obtain ⟨i, hposition⟩ := Option.isSome_iff_exists.1 (hindexed.contains_iff.2 hmem)
  obtain ⟨entry, hentry, hname⟩ :=
    names_getElem?_eq_some_iff.1 (hindexed.names_position? hposition)
  exact ⟨entry, lookup_eq_found_iff.2 ⟨i, hposition, hentry⟩, hname⟩

/-- What is found is an entry that bears the name. -/
theorem mem_of_lookup (hindexed : catalog.Indexed) {entry : α}
    (hfound : catalog.lookup name = .found entry) :
    entry ∈ catalog.toList ∧ Named.name entry = name := by
  obtain ⟨i, hposition, hentry⟩ := lookup_eq_found_iff.1 hfound
  obtain ⟨other, hother, hname⟩ :=
    names_getElem?_eq_some_iff.1 (hindexed.names_position? hposition)
  obtain rfl := Option.some.inj (hentry.symm.trans hother)
  exact ⟨List.mem_of_getElem? hentry, hname⟩

/-- No place of a name lies past the end. -/
theorem lookup_ne_stale (hindexed : catalog.Indexed) : catalog.lookup name ≠ .stale := by
  intro hstale
  unfold lookup at hstale
  cases hposition : catalog.position? name with
  | none => simp [hposition] at hstale
  | some i =>
      obtain ⟨entry, hentry, -⟩ :=
        names_getElem?_eq_some_iff.1 (hindexed.names_position? hposition)
      simp [hposition, hentry] at hstale

/-- If no two entries share a name, each name has just one place. -/
theorem position?_eq_some_iff (hindexed : catalog.Indexed) (hdistinct : catalog.names.Nodup)
    {i : Nat} : catalog.position? name = some i ↔ catalog.names[i]? = some name := by
  refine ⟨hindexed.names_position?, fun hname => ?_⟩
  have hmem := List.mem_of_getElem? hname
  obtain ⟨j, hposition⟩ := Option.isSome_iff_exists.1 (hindexed.contains_iff.2 hmem)
  have hlt := (List.getElem?_eq_some_iff.1 hname).1
  have hsame := hname.trans (hindexed.names_position? hposition).symm
  rw [(List.getElem?_inj hlt hdistinct).1 hsame, hposition]

end Indexed

/-- Where no two entries share a name, the first place of a name is its only one. -/
theorem findIdx?_name_eq_some_iff {entries : List α} (hdistinct : (entries.map Named.name).Nodup)
    {name : String} {i : Nat} :
    entries.findIdx? (fun entry => Named.name entry = name) = some i ↔
      (entries.map Named.name)[i]? = some name := by
  rw [List.findIdx?_eq_some_iff_getElem]
  constructor
  · rintro ⟨hlt, hname, -⟩
    simpa [hlt] using hname
  · intro hname
    obtain ⟨hlt, hentry⟩ := List.getElem?_eq_some_iff.1 hname
    refine ⟨by simpa using hlt, by simpa using hentry, fun j hj hother => ?_⟩
    -- Two entries of one name would stand at one place.
    have hjlt := Nat.lt_trans hj hlt
    have hsame : (entries.map Named.name)[j]? = (entries.map Named.name)[i]? := by
      rw [hname, List.getElem?_eq_getElem hjlt]
      simpa using hother
    have hplace := (List.getElem?_inj hjlt hdistinct).1 hsame
    omega

/-- An entry with a name of its own is found. -/
theorem lookup_ofList {entries : List α} {entry : α} (hdistinct : (entries.map Named.name).Nodup)
    (hmem : entry ∈ entries) : (ofList entries).lookup (Named.name entry) = .found entry := by
  have hindexed := indexed_ofList entries
  have hname : Named.name entry ∈ (ofList entries).names := by
    rw [names_ofList]
    exact List.mem_map_of_mem hmem
  obtain ⟨other, hfound, hsame⟩ := hindexed.exists_lookup hname
  have hother := (hindexed.mem_of_lookup hfound).1
  rw [toList_ofList] at hother
  rw [hfound, List.inj_on_of_nodup_map hdistinct hother hmem hsame]

/-- Entries of which no two share a name, each found under its own. -/
structure Keyed (catalog : Catalog α) : Prop where
  indexed : catalog.Indexed
  distinct : catalog.names.Nodup

namespace Keyed

variable {catalog : Catalog α} {entry : α}

theorem add (hkeyed : catalog.Keyed) (hnew : Named.name entry ∉ catalog.names) :
    (catalog.add entry).Keyed where
  indexed := hkeyed.indexed.add entry
  distinct := by
    rw [names_add, ← List.concat_eq_append]
    exact hkeyed.distinct.concat hnew

theorem lookup_eq_some_iff (hkeyed : catalog.Keyed) {name : String} :
    (catalog.lookup name).toOption = some entry ↔
      entry ∈ catalog.toList ∧ Named.name entry = name := by
  constructor
  · intro hlookup
    cases hfound : catalog.lookup name with
    | absent => simp [hfound, Lookup.toOption] at hlookup
    | stale => simp [hfound, Lookup.toOption] at hlookup
    | found other =>
        rw [hfound, Lookup.toOption, Option.some_inj] at hlookup
        exact hkeyed.indexed.mem_of_lookup (hlookup ▸ hfound)
  · rintro ⟨hmem, rfl⟩
    have hfound := lookup_ofList hkeyed.distinct hmem
    rw [← hkeyed.indexed, rebuild, hfound]
    rfl

end Keyed

end TableSchema.Catalog
