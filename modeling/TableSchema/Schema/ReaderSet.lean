/-!
# Sets of readers

The readers to which a table or a column is open: distinct names in increasing order. The empty
set stands for every reader.
-/

namespace TableSchema

/-- Distinct reader names in increasing order. -/
structure ReaderSet where
  toList : List String
  sorted : toList.Pairwise (· < ·) := by decide
deriving DecidableEq, Repr

namespace ReaderSet

instance : EmptyCollection ReaderSet :=
  ⟨{ toList := [], sorted := .nil }⟩

instance : Inhabited ReaderSet :=
  ⟨∅⟩

/-- Puts a name into its place in an increasing list, unless it is there already. -/
def place (name : String) : List String → List String
  | [] => [name]
  | other :: rest =>
      if name < other then name :: other :: rest
      else if other < name then other :: place name rest
      else other :: rest

theorem mem_place {name x : String} {names : List String} :
    x ∈ place name names ↔ x = name ∨ x ∈ names := by
  induction names with
  | nil => simp [place]
  | cons other rest ih =>
      simp only [place]
      split
      · simp
      · split
        · simp only [List.mem_cons, ih]; grind
        · simp only [List.mem_cons]; grind

theorem pairwise_place {name : String} {names : List String} (h : names.Pairwise (· < ·)) :
    (place name names).Pairwise (· < ·) := by
  induction names with
  | nil => simp [place]
  | cons other rest ih =>
      rw [List.pairwise_cons] at h
      simp only [place]
      split
      next hlt =>
        exact List.pairwise_cons.2 ⟨by grind, List.pairwise_cons.2 h⟩
      next =>
        split
        next hlt =>
          refine List.pairwise_cons.2 ⟨fun x hx => ?_, ih h.2⟩
          rcases mem_place.1 hx with rfl | hx
          · exact hlt
          · exact h.1 x hx
        next => exact List.pairwise_cons.2 h

def insert (readers : ReaderSet) (name : String) : ReaderSet where
  toList := place name readers.toList
  sorted := pairwise_place readers.sorted

def ofList (names : List String) : ReaderSet :=
  names.foldl insert ∅

theorem mem_insert {readers : ReaderSet} {name x : String} :
    x ∈ (readers.insert name).toList ↔ x = name ∨ x ∈ readers.toList :=
  mem_place

theorem mem_ofList {names : List String} {x : String} : x ∈ (ofList names).toList ↔ x ∈ names := by
  have hrun (readers : ReaderSet) :
      x ∈ (names.foldl insert readers).toList ↔ x ∈ readers.toList ∨ x ∈ names := by
    induction names generalizing readers with
    | nil => simp
    | cons name rest ih =>
        rw [List.foldl_cons, ih, mem_insert, List.mem_cons]
        grind
  rw [ofList, hrun]
  exact or_iff_right List.not_mem_nil

def admits (readers : ReaderSet) (reader : String) : Bool :=
  readers.toList.isEmpty || readers.toList.contains reader

end ReaderSet

end TableSchema
