import Mathlib.Data.List.Basic
import TableSchema.Text.LineEnding

/-!
# Converted line endings

Text without carriage returns has one before each line feed after it is converted, and nowhere else,
so that the conversion can be undone.
-/

namespace TableSchema.LineEnding

/-- The text with a line feed for every carriage return that a line feed follows. -/
def withLineFeeds : List Char → List Char
  | [] => []
  | '\r' :: '\n' :: rest => '\n' :: withLineFeeds rest
  | c :: rest => c :: withLineFeeds rest

/-- Every line feed is preceded by exactly one carriage return, and there are no others. -/
structure PairsEnds (cs : List Char) : Prop where
  preceded : ∀ i, cs[i]? = some '\n' →
    ∃ j, i = j + 1 ∧ cs[j]? = some '\r' ∧ ∀ k, j = k + 1 → cs[k]? ≠ some '\r'
  followed : ∀ i, cs[i]? = some '\r' → cs[i + 1]? = some '\n'

variable {cs rest : List Char} {c : Char}

theorem withCarriageReturns_lineFeed (rest : List Char) :
    withCarriageReturns ('\n' :: rest) = '\r' :: '\n' :: withCarriageReturns rest := rfl

theorem withCarriageReturns_cons (hc : c ≠ '\n') (rest : List Char) :
    withCarriageReturns (c :: rest) = c :: withCarriageReturns rest := by
  rw [withCarriageReturns, if_neg hc]
  rfl

theorem withCarriageReturns_append (first second : List Char) :
    withCarriageReturns (first ++ second) =
      withCarriageReturns first ++ withCarriageReturns second := by
  induction first with
  | nil => rfl
  | cons c rest ih =>
      rw [List.cons_append, withCarriageReturns, withCarriageReturns, ih, List.append_assoc]

theorem withCarriageReturns_of_not_mem (hcs : '\n' ∉ cs) : withCarriageReturns cs = cs := by
  induction cs with
  | nil => rfl
  | cons c rest ih =>
      rw [List.mem_cons, not_or] at hcs
      rw [withCarriageReturns_cons (Ne.symm hcs.1), ih hcs.2]

/-- Converted text never starts with a line feed. -/
theorem head?_withCarriageReturns_ne (cs : List Char) :
    (withCarriageReturns cs).head? ≠ some '\n' := by
  cases cs with
  | nil => simp [withCarriageReturns]
  | cons c rest =>
      by_cases hc : c = '\n'
      · subst hc
        simp [withCarriageReturns_lineFeed]
      · simp [withCarriageReturns_cons hc, hc]

theorem withLineFeeds_cons (hc : c ≠ '\r') (rest : List Char) :
    withLineFeeds (c :: rest) = c :: withLineFeeds rest := by
  rw [withLineFeeds]
  exact fun _ hreturn => absurd hreturn hc

theorem withLineFeeds_withCarriageReturns (hcs : '\r' ∉ cs) :
    withLineFeeds (withCarriageReturns cs) = cs := by
  induction cs with
  | nil => rfl
  | cons c rest ih =>
      rw [List.mem_cons, not_or] at hcs
      by_cases hc : c = '\n'
      · subst hc
        rw [withCarriageReturns_lineFeed, withLineFeeds, ih hcs.2]
      · rw [withCarriageReturns_cons hc, withLineFeeds_cons (Ne.symm hcs.1), ih hcs.2]

/-- A carriage return stands just where a line feed follows. -/
theorem getElem?_withCarriageReturns_iff (hcs : '\r' ∉ cs) (i : Nat) :
    (withCarriageReturns cs)[i]? = some '\r' ↔ (withCarriageReturns cs)[i + 1]? = some '\n' := by
  induction cs generalizing i with
  | nil => simp [withCarriageReturns]
  | cons c rest ih =>
      rw [List.mem_cons, not_or] at hcs
      have hhead := head?_withCarriageReturns_ne rest
      rw [List.head?_eq_getElem?] at hhead
      by_cases hc : c = '\n'
      · subst hc
        rw [withCarriageReturns_lineFeed]
        rcases i with _ | _ | i
        · simp
        · simpa using hhead
        · simpa using ih hcs.2 i
      · rw [withCarriageReturns_cons hc]
        cases i with
        | zero => simpa [Ne.symm hcs.1] using hhead
        | succ i => simpa using ih hcs.2 i

theorem pairsEnds_withCarriageReturns (hcs : '\r' ∉ cs) : PairsEnds (withCarriageReturns cs) where
  preceded i hi := by
    cases i with
    | zero =>
        rw [← List.head?_eq_getElem?] at hi
        exact absurd hi (head?_withCarriageReturns_ne cs)
    | succ j =>
        refine ⟨j, rfl, (getElem?_withCarriageReturns_iff hcs j).2 hi, ?_⟩
        rintro k rfl hk
        -- Both a line feed and the carriage return before it would stand there.
        have hfeed := (getElem?_withCarriageReturns_iff hcs k).1 hk
        have hreturn := (getElem?_withCarriageReturns_iff hcs (k + 1)).2 hi
        rw [hfeed] at hreturn
        exact absurd (Option.some.inj hreturn) (by decide)
  followed i hi := (getElem?_withCarriageReturns_iff hcs i).1 hi

end TableSchema.LineEnding
