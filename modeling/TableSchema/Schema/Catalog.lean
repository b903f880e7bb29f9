/-!
# Ordered collections with a name index

A catalog keeps entries in the order in which they were added and, beside them, the positions by
which names are looked up. Of two entries with one name the later one is found. Taking an entry
out of the list leaves the positions as they were, so a look-up may then give a neighbour or point
past the end; `rebuild` puts that right.
-/

namespace TableSchema

/-- Things that are looked up by a name of their own. -/
class Named (α : Type) where
  name : α → String

/-- What a look-up by name gives. -/
inductive Lookup (α : Type) where
  /-- No entry was ever added under the name. -/
  | absent
  /-- The position kept for the name lies past the end of the list. -/
  | stale
  /-- The entry at the position kept for the name. -/
  | found (entry : α)
deriving DecidableEq, Repr

def Lookup.toOption {α : Type} : Lookup α → Option α
  | .found entry => some entry
  | _ => none

/-- Entries in order, with the positions of their names, the latest first. -/
structure Catalog (α : Type) where
  toList : List α
  positions : List (String × Nat)
deriving DecidableEq, Repr

namespace Catalog

variable {α : Type}

instance : EmptyCollection (Catalog α) :=
  ⟨⟨[], []⟩⟩

instance : Inhabited (Catalog α) :=
  ⟨∅⟩

def position? (catalog : Catalog α) (name : String) : Option Nat :=
  catalog.positions.lookup name

def contains (catalog : Catalog α) (name : String) : Bool :=
  (catalog.position? name).isSome

def lookup (catalog : Catalog α) (name : String) : Lookup α :=
  match catalog.position? name with
  | none => .absent
  | some i =>
      match catalog.toList[i]? with
      | none => .stale
      | some entry => .found entry

/-- Takes the entry at a position out of the list and leaves the positions as they are. -/
def eraseIdx (catalog : Catalog α) (i : Nat) : Catalog α :=
  { catalog with toList := catalog.toList.eraseIdx i }

/-- Replaces the entry at a position by one of the same name. -/
def modify (catalog : Catalog α) (i : Nat) (f : α → α) : Catalog α :=
  { catalog with toList := catalog.toList.modify i f }

@[simp] theorem toList_empty : (∅ : Catalog α).toList = [] := rfl

variable [Named α]

/-- Adds an entry at the end, to be found from now on under its name. -/
def add (catalog : Catalog α) (entry : α) : Catalog α where
  toList := catalog.toList ++ [entry]
  positions := (Named.name entry, catalog.toList.length) :: catalog.positions

def ofList (entries : List α) : Catalog α :=
  entries.foldl add ∅

/-- The same entries with the positions computed afresh. -/
def rebuild (catalog : Catalog α) : Catalog α :=
  ofList catalog.toList

@[simp] theorem toList_add (catalog : Catalog α) (entry : α) :
    (catalog.add entry).toList = catalog.toList ++ [entry] := rfl

theorem toList_foldl_add (entries : List α) (catalog : Catalog α) :
    (entries.foldl add catalog).toList = catalog.toList ++ entries := by
  induction entries generalizing catalog with
  | nil => simp
  | cons entry rest ih => simp [ih]

@[simp] theorem toList_ofList (entries : List α) : (ofList entries).toList = entries := by
  simp [ofList, toList_foldl_add]

@[simp] theorem toList_rebuild (catalog : Catalog α) : catalog.rebuild.toList = catalog.toList :=
  toList_ofList _

/-- A catalog built by additions has nothing to put right. -/
@[simp] theorem rebuild_ofList (entries : List α) : (ofList entries).rebuild = ofList entries := by
  simp [rebuild]

end Catalog

end TableSchema
