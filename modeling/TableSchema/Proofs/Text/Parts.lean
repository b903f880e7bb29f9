import Mathlib.Data.List.Basic
import TableSchema.Text.Split

/-!
# Parts of joined texts

A text that is joined from parts is split into just these parts if none of them holds what stands
between them. If one of them does, there are more parts than before.
-/

namespace TableSchema

section Count

variable {α β : Type} {f : α → List β} {items : List α}

theorem length_le_length_flatMap (hne : ∀ a ∈ items, f a ≠ []) :
    items.length ≤ (items.flatMap f).length := by
  induction items with
  | nil => exact Nat.le_refl 0
  | cons first rest ih =>
      rw [List.forall_mem_cons] at hne
      have hfirst := List.length_pos_of_ne_nil hne.1
      have hrest := ih hne.2
      rw [List.flatMap_cons, List.length_append, List.length_cons]
      omega

/-- Items that all give something give as much as they are if each gives one thing. -/
theorem length_flatMap_eq_iff (hne : ∀ a ∈ items, f a ≠ []) :
    (items.flatMap f).length = items.length ↔ ∀ a ∈ items, (f a).length = 1 := by
  induction items with
  | nil => simp
  | cons first rest ih =>
      rw [List.forall_mem_cons] at hne
      have hfirst := List.length_pos_of_ne_nil hne.1
      have hrest := length_le_length_flatMap hne.2
      rw [List.flatMap_cons, List.length_append, List.length_cons, List.forall_mem_cons, ← ih hne.2]
      omega

end Count

variable {α : Type} [DecidableEq α] {delimiter : α} {parts : List (List α)}

theorem splitOn_intercalate_eq_flatMap (hne : parts ≠ []) :
    ([delimiter].intercalate parts).splitOn delimiter = parts.flatMap (·.splitOn delimiter) := by
  induction parts with
  | nil => exact absurd rfl hne
  | cons part rest ih =>
      cases rest with
      | nil => simp
      | cons next others =>
          have hrest := ih (List.cons_ne_nil next others)
          rw [List.flatMap_cons, List.intercalate_cons_cons, List.append_assoc,
            List.singleton_append, List.splitOn_append_cons_self, hrest]

theorem length_splitOn_eq_one_iff {text : List α} :
    (text.splitOn delimiter).length = 1 ↔ delimiter ∉ text := by
  constructor
  · intro hlength hmem
    obtain ⟨before, after, rfl⟩ := List.append_of_mem hmem
    have hbefore := List.length_pos_of_ne_nil (List.splitOn_ne_nil delimiter before)
    have hafter := List.length_pos_of_ne_nil (List.splitOn_ne_nil delimiter after)
    rw [List.splitOn_append_cons_self, List.length_append] at hlength
    omega
  · intro hnot
    rw [List.splitOn_eq_singleton hnot, List.length_singleton]

/-- A joined text has as many parts as it was joined from if they do not hold what joins them. -/
theorem length_splitOn_intercalate_iff (hne : parts ≠ []) :
    (([delimiter].intercalate parts).splitOn delimiter).length = parts.length ↔
      ∀ part ∈ parts, delimiter ∉ part := by
  rw [splitOn_intercalate_eq_flatMap hne,
    length_flatMap_eq_iff fun part _ => List.splitOn_ne_nil delimiter part]
  simp only [length_splitOn_eq_one_iff]

theorem not_mem_of_mem_splitOn {text part : List α} (hmem : part ∈ text.splitOn delimiter) :
    delimiter ∉ part := by
  have hback : [delimiter].intercalate (text.splitOn delimiter) = text :=
    List.intercalate_splitOn delimiter
  exact (length_splitOn_intercalate_iff (List.splitOn_ne_nil delimiter text)).1
    (by rw [hback]) part hmem

/-- A text has one part more than it has delimiters. -/
theorem length_splitOn (text : List α) :
    (text.splitOn delimiter).length = text.count delimiter + 1 := by
  induction text with
  | nil => simp
  | cons c rest ih =>
      rw [List.splitOn_cons_eq_if_modifyHead, List.count_cons]
      by_cases hc : c = delimiter
      · simp [hc, ih]
      · simp [hc, ih]

omit [DecidableEq α] in
theorem not_mem_intercalate {c : α} {separator : List α} (hseparator : c ∉ separator)
    (hparts : ∀ part ∈ parts, c ∉ part) : c ∉ separator.intercalate parts := by
  induction parts with
  | nil => simp
  | cons part rest ih =>
      rw [List.forall_mem_cons] at hparts
      cases rest with
      | nil => simpa using hparts.1
      | cons next others =>
          have hrest := ih hparts.2
          rw [List.intercalate_cons_cons, List.mem_append, List.mem_append]
          simp only [hparts.1, hseparator, hrest, or_self, not_false_eq_true]

omit [DecidableEq α] in
theorem flatMap_append_delimiter (hne : parts ≠ []) :
    parts.flatMap (· ++ [delimiter]) = [delimiter].intercalate parts ++ [delimiter] := by
  induction parts with
  | nil => exact absurd rfl hne
  | cons part rest ih =>
      cases rest with
      | nil => simp
      | cons next others =>
          have hrest := ih (List.cons_ne_nil next others)
          rw [List.flatMap_cons, hrest, List.intercalate_cons_cons]
          simp

omit [DecidableEq α] in
/-- A joined text up to one of its parts, and from there on. -/
theorem flatMap_take_append_intercalate_drop {k : Nat} (hk : k < parts.length) :
    (parts.take k).flatMap (· ++ [delimiter]) ++ [delimiter].intercalate (parts.drop k) =
      [delimiter].intercalate parts := by
  induction k generalizing parts with
  | zero => simp
  | succ k ih =>
      cases parts with
      | nil => simp at hk
      | cons part rest =>
          have hrest : k < rest.length := Nat.lt_of_succ_lt_succ hk
          obtain ⟨next, others, hparts⟩ := List.exists_cons_of_length_pos (Nat.zero_lt_of_lt hrest)
          have hjoin : [delimiter].intercalate (part :: rest) =
              part ++ [delimiter] ++ [delimiter].intercalate rest := by
            rw [hparts, List.intercalate_cons_cons]
          rw [List.take_succ_cons, List.drop_succ_cons, List.flatMap_cons, List.append_assoc,
            ih hrest, hjoin]

/-- A text is split into just those parts without the separator from which it is joined. -/
theorem splitText_eq_iff {separator : Char} {text : String} {parts : List String} :
    splitText separator text = parts ↔
      parts ≠ [] ∧ (∀ part ∈ parts, separator ∉ part.toList) ∧
        (String.singleton separator).intercalate parts = text := by
  have hjoin (parts : List String) : ((String.singleton separator).intercalate parts).toList =
      [separator].intercalate (parts.map String.toList) := by
    rw [String.toList_intercalate, String.toList_singleton]
  have htoList : String.toList ∘ String.ofList = id := funext fun _ => String.toList_ofList
  constructor
  · rintro rfl
    have hne := List.splitOn_ne_nil separator text.toList
    have hback : [separator].intercalate (text.toList.splitOn separator) = text.toList :=
      List.intercalate_splitOn separator
    refine ⟨by simp [splitText, hne], ?_, ?_⟩
    · have hlength := (length_splitOn_intercalate_iff hne).1 (by rw [hback])
      simpa [splitText] using hlength
    · apply String.toList_inj.1
      rw [hjoin, splitText, List.map_map, htoList, List.map_id, hback]
  · rintro ⟨hne, hfree, rfl⟩
    have hofList : String.ofList ∘ String.toList = id := funext fun _ => String.ofList_toList
    rw [splitText, hjoin, List.splitOn_intercalate, List.map_map, hofList, List.map_id]
    · simpa using hfree
    · simpa using hne

end TableSchema
