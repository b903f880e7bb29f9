import Mathlib.Data.List.TakeWhile
import TableSchema.Table.Rules

/-!
# Two ways to take a cell apart

Both ways to go through the quotes of a cell leave the same characters, and both ways to look for a
delimiter find the same token.
-/

namespace TableSchema

/-! ## Quotes -/

namespace Cell

theorem pairQuotes_eq_skipQuotes (cell : List Char) : pairQuotes cell = skipQuotes false cell := by
  fun_induction pairQuotes cell with
  | case1 => rfl
  | case2 rest ih => simp [skipQuotes, ih]
  | case3 c rest hnot ih =>
      by_cases hquote : c = '"'
      · subst hquote
        -- The quote that was kept is not followed by another one.
        cases rest with
        | nil => simp [skipQuotes, pairQuotes]
        | cons d rest =>
            have hne : d ≠ '"' := by
              intro h
              exact hnot rest rfl (h ▸ rfl)
            rw [ih]
            simp [skipQuotes, hne]
      · simp [skipQuotes, hquote, ih]

theorem unquote_eq_unquoteSkipping : unquote = unquoteSkipping := by
  funext cell
  unfold unquote unquoteSkipping
  cases enclosed? cell with
  | none => rfl
  | some inner => exact pairQuotes_eq_skipQuotes inner

end Cell

/-! ## Tokens -/

namespace Splitter

theorem takeWhile_ne_eq_take {c : Char} {text : List Char} {i : Nat}
    (hfound : text.idxOf? c = some i) : text.takeWhile (· ≠ c) = text.take i := by
  induction text generalizing i with
  | nil => cases hfound
  | cons d rest ih =>
      rw [List.idxOf?_cons] at hfound
      by_cases hd : d = c
      · obtain rfl : 0 = i := by simpa [hd] using hfound
        simp [hd]
      · rw [if_neg (by simpa using hd), Option.map_eq_some_iff] at hfound
        obtain ⟨j, hj, rfl⟩ := hfound
        rw [List.takeWhile_cons_of_pos (by simpa using hd), List.take_succ_cons, ih hj]

theorem next?_eq_nextFound? : next? = nextFound? := by
  funext s
  unfold next? nextFound?
  dsimp only
  by_cases hover : Bytes.size s.text < s.index
  · rw [if_pos hover, if_pos hover]
  rw [if_neg hover, if_neg hover]
  by_cases hend : s.index = Bytes.size s.text
  · have hrest : Bytes.drop s.index s.text = [] := by
      have h := Bytes.drop_size_append s.text []
      rwa [List.append_nil, ← hend] at h
    rw [if_pos hend, hrest]
    rfl
  · rw [if_neg hend]
    cases hfound : (Bytes.drop s.index s.text).idxOf? s.delimiter with
    | none =>
        have hmem := List.idxOf?_eq_none_iff.1 hfound
        have hall : (Bytes.drop s.index s.text).takeWhile (· ≠ s.delimiter) =
            Bytes.drop s.index s.text := by
          refine List.takeWhile_eq_self_iff.2 fun c hc => decide_eq_true ?_
          rintro rfl
          exact hmem hc
        have hcontains : (Bytes.drop s.index s.text).contains s.delimiter = false := by simp [hmem]
        rw [hall, hcontains]
        rfl
    | some i =>
        have hmem : s.delimiter ∈ Bytes.drop s.index s.text :=
          List.isSome_idxOf?.1 (by rw [hfound]; rfl)
        have hcontains : (Bytes.drop s.index s.text).contains s.delimiter := by simp [hmem]
        rw [takeWhile_ne_eq_take hfound, hcontains]
        rfl

end Splitter

end TableSchema
