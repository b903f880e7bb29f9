import Mathlib.Data.List.Nodup
import TableSchema.Table.KeyedRows

/-!
# Laws of keyed rows

What is found after an entry is put in, and which entries there are then.
-/

namespace TableSchema

@[simp] theorem Atom.before_irrefl (a : Atom) : a.before a = false := by
  cases a with
  | int n => simp [Atom.before]
  | text s => simp [Atom.before]

theorem Atom.ne_of_before {a b : Atom} (h : a.before b) : a ≠ b := by
  rintro rfl
  simp at h

namespace Keyed

variable {α β : Type}

/-! ## Looking up -/

theorem contains_eq_isSome_get? (entries : Keyed α) (key : Atom) :
    entries.contains key = (entries.get? key).isSome := by
  rw [Bool.eq_iff_iff, get?, List.lookup_isSome_iff, contains, List.any_eq_true]
  constructor
  · rintro ⟨entry, hmem, hkey⟩
    exact ⟨entry, hmem, beq_iff_eq.2 (of_decide_eq_true hkey).symm⟩
  · rintro ⟨entry, hmem, hkey⟩
    exact ⟨entry, hmem, decide_eq_true (eq_of_beq hkey).symm⟩

theorem contains_iff_mem_keys {entries : Keyed α} {key : Atom} :
    entries.contains key = true ↔ key ∈ entries.toList.map (·.1) := by
  simp [contains]

@[simp] theorem get?_empty (key : Atom) : (∅ : Keyed α).get? key = none := rfl

@[simp] theorem contains_empty (key : Atom) : (∅ : Keyed α).contains key = false := rfl

@[simp] theorem toList_empty : (∅ : Keyed α).toList = [] := rfl

/-! ## Putting in -/

theorem lookup_place (key other : Atom) (value : α) (entries : List (Atom × α)) :
    (place key value entries).lookup other =
      if other = key then some value else entries.lookup other := by
  induction entries with
  | nil =>
      by_cases h : other = key <;> simp [place, h]
  | cons entry rest ih =>
      obtain ⟨first, old⟩ := entry
      simp only [place]
      split
      next =>
        by_cases h : other = key
        · simp [h]
        · simp [List.lookup_cons, h, beq_false_of_ne h]
      next hkey =>
        split
        next hfirst =>
          have hne : first ≠ key := Atom.ne_of_before hfirst
          by_cases h : other = first
          · simp [h, hne]
          · simp [List.lookup_cons, beq_false_of_ne h, ih]
        next hfirst =>
          obtain rfl : first = key := Atom.eq_of_not_before hfirst hkey
          by_cases h : other = first
          · simp [h]
          · simp [List.lookup_cons, h, beq_false_of_ne h]

@[simp] theorem get?_insert (entries : Keyed α) (key other : Atom) (value : α) :
    (entries.insert key value).get? other =
      if other = key then some value else entries.get? other :=
  lookup_place key other value entries.toList

@[simp] theorem contains_insert (entries : Keyed α) (key other : Atom) (value : α) :
    (entries.insert key value).contains other =
      (decide (other = key) || entries.contains other) := by
  rw [contains_eq_isSome_get?, contains_eq_isSome_get?, get?_insert]
  by_cases h : other = key <;> simp [h]

theorem place_place (key : Atom) (first second : α) (entries : List (Atom × α)) :
    place key second (place key first entries) = place key second entries := by
  induction entries with
  | nil => simp [place]
  | cons entry rest ih =>
      simp only [place]
      split
      next => simp [place]
      next hkey =>
        split
        next hentry => simp [place, hkey, hentry, ih]
        next => simp [place]

/-- Of two values put under one key the second stays. -/
@[simp] theorem insert_insert (entries : Keyed α) (key : Atom) (first second : α) :
    (entries.insert key first).insert key second = entries.insert key second := by
  simp only [insert, place_place]

theorem place_perm {key : Atom} {entries : List (Atom × α)} (value : α)
    (hnew : key ∉ entries.map (·.1)) :
    (place key value entries).Perm ((key, value) :: entries) := by
  induction entries with
  | nil => simp [place]
  | cons entry rest ih =>
      rw [List.map_cons, List.mem_cons, not_or] at hnew
      simp only [place]
      split
      next => exact .refl _
      next hkey =>
        split
        next => exact ((ih hnew.2).cons entry).trans (.swap _ _ _)
        next hentry => exact absurd (Atom.eq_of_not_before hkey hentry) hnew.1

/-- A value put under a new key is one more entry. -/
theorem insert_perm {entries : Keyed α} {key : Atom} (value : α)
    (hnew : entries.contains key = false) :
    (entries.insert key value).toList.Perm ((key, value) :: entries.toList) := by
  apply place_perm value
  intro hmem
  rw [contains_iff_mem_keys.2 hmem] at hnew
  cases hnew

/-- Entries with distinct keys stay the same in some order only if all of them stay the same. -/
theorem map_perm_iff {entries : List (Atom × α)} (hdistinct : (entries.map (·.1)).Nodup)
    {f : α → α} :
    (entries.map fun entry => (entry.1, f entry.2)).Perm entries ↔
      ∀ entry ∈ entries, f entry.2 = entry.2 := by
  constructor
  · intro hperm entry hmem
    have hmoved : (entry.1, f entry.2) ∈ entries :=
      hperm.mem_iff.1 (List.mem_map_of_mem (f := fun entry => (entry.1, f entry.2)) hmem)
    -- Both are entries with the same key.
    have hsame := List.inj_on_of_nodup_map hdistinct hmoved hmem rfl
    exact congrArg Prod.snd hsame
  · intro hfixed
    have hmap : (entries.map fun entry => (entry.1, f entry.2)) = entries.map id :=
      List.map_congr_left fun entry hmem => by rw [hfixed entry hmem, id]
    rw [hmap, List.map_id]

/-! ## New keys -/

/-- Distinct keys under which nothing is held. -/
structure Fresh (entries : Keyed α) (keys : List Atom) : Prop where
  distinct : keys.Nodup
  absent : ∀ key ∈ keys, entries.contains key = false

theorem fresh_empty_iff {keys : List Atom} : (∅ : Keyed α).Fresh keys ↔ keys.Nodup :=
  ⟨Fresh.distinct, fun h => ⟨h, fun key _ => contains_empty key⟩⟩

theorem fresh_nil (entries : Keyed α) : entries.Fresh [] :=
  ⟨.nil, by simp⟩

/-- Keys are new one after the other. -/
theorem fresh_cons_iff {entries : Keyed α} {key : Atom} {keys : List Atom} (value : α) :
    entries.Fresh (key :: keys) ↔
      entries.contains key = false ∧ (entries.insert key value).Fresh keys := by
  constructor
  · rintro ⟨hdistinct, habsent⟩
    rw [List.nodup_cons] at hdistinct
    refine ⟨habsent key List.mem_cons_self, hdistinct.2, fun other hother => ?_⟩
    have hne : other ≠ key := fun h => hdistinct.1 (h ▸ hother)
    simp [hne, habsent other (List.mem_cons_of_mem _ hother)]
  · rintro ⟨hnew, hdistinct, habsent⟩
    simp only [contains_insert, Bool.or_eq_false_iff, decide_eq_false_iff_not] at habsent
    refine ⟨List.nodup_cons.2 ⟨fun h => (habsent key h).1 rfl, hdistinct⟩, ?_⟩
    rw [List.forall_mem_cons]
    exact ⟨hnew, fun other hother => (habsent other hother).2⟩

/-- A value in place of another makes no key new or old. -/
theorem fresh_insert_iff {entries : Keyed α} {key : Atom} {keys : List Atom} (value : α)
    (hkey : entries.contains key) : (entries.insert key value).Fresh keys ↔ entries.Fresh keys := by
  have hcontains (other : Atom) :
      (entries.insert key value).contains other = entries.contains other := by
    by_cases h : other = key <;> simp [h, hkey]
  constructor
  · rintro ⟨hdistinct, habsent⟩
    exact ⟨hdistinct, fun other hother => hcontains other ▸ habsent other hother⟩
  · rintro ⟨hdistinct, habsent⟩
    exact ⟨hdistinct, fun other hother => (hcontains other).trans (habsent other hother)⟩

end Keyed

end TableSchema
