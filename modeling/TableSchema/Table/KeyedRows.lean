import TableSchema.Table.Value

/-!
# Keyed rows

What a table holds under each key, in the order of the keys. No key occurs twice.
-/

namespace TableSchema

/-- Entries with increasing keys. -/
structure Keyed (α : Type) where
  toList : List (Atom × α)
  sorted : toList.Pairwise fun a b => a.1.before b.1 := by exact .nil

namespace Keyed

variable {α : Type}

instance : EmptyCollection (Keyed α) :=
  ⟨{ toList := [] }⟩

def get? (entries : Keyed α) (key : Atom) : Option α :=
  entries.toList.lookup key

def contains (entries : Keyed α) (key : Atom) : Bool :=
  entries.toList.any (·.1 = key)

/-- Puts an entry into its place among entries with increasing keys, instead of the one that has
its key. -/
def place (key : Atom) (value : α) : List (Atom × α) → List (Atom × α)
  | [] => [(key, value)]
  | other :: rest =>
      if key.before other.1 then (key, value) :: other :: rest
      else if other.1.before key then other :: place key value rest
      else (key, value) :: rest

theorem mem_place {key : Atom} {value : α} {entries : List (Atom × α)} {e : Atom × α}
    (h : e ∈ place key value entries) : e = (key, value) ∨ e ∈ entries := by
  induction entries with
  | nil => simpa [place] using h
  | cons other rest ih =>
      simp only [place] at h
      grind

end Keyed

theorem Atom.before_trans {a b c : Atom} (hab : a.before b) (hbc : b.before c) : a.before c := by
  cases a <;> cases b <;> cases c <;>
    simp only [Atom.before, decide_eq_true_eq, Bool.false_eq_true] at *
  · exact Int32.lt_trans hab hbc
  · exact String.lt_trans hab hbc

/-- Keys of which neither stands before the other are equal. -/
theorem Atom.eq_of_not_before {a b : Atom} (hab : ¬ a.before b) (hba : ¬ b.before a) : a = b := by
  cases a <;> cases b <;>
    simp only [Atom.before, decide_eq_true_eq, not_true_eq_false] at *
  · exact congrArg _ (Int32.le_antisymm (Int32.not_lt.1 hba) (Int32.not_lt.1 hab))
  · exact congrArg _ (String.le_antisymm (String.not_lt.1 hba) (String.not_lt.1 hab))

namespace Keyed

variable {α : Type}

theorem pairwise_place {key : Atom} {value : α} {entries : List (Atom × α)}
    (h : entries.Pairwise fun a b => a.1.before b.1) :
    (place key value entries).Pairwise fun a b => a.1.before b.1 := by
  induction entries with
  | nil => simp [place]
  | cons other rest ih =>
      rw [List.pairwise_cons] at h
      simp only [place]
      split
      next hlt =>
        refine List.pairwise_cons.2 ⟨fun e he => ?_, List.pairwise_cons.2 h⟩
        rcases List.mem_cons.1 he with rfl | he
        · exact hlt
        · exact Atom.before_trans hlt (h.1 e he)
      next hge =>
        split
        next hlt =>
          refine List.pairwise_cons.2 ⟨fun e he => ?_, ih h.2⟩
          rcases mem_place he with rfl | he
          · exact hlt
          · exact h.1 e he
        next hle =>
          have hkey : other.1 = key := Atom.eq_of_not_before hle hge
          exact List.pairwise_cons.2 ⟨fun e he => hkey ▸ h.1 e he, h.2⟩

/-- Holds a value under a key, instead of what was held under it. -/
def insert (entries : Keyed α) (key : Atom) (value : α) : Keyed α where
  toList := place key value entries.toList
  sorted := pairwise_place entries.sorted

end Keyed

end TableSchema
