import TableSchema.Table.Layout

/-!
# Values

The values in the rows of a table, and their order as keys: integers by value, texts by code
points.
-/

namespace TableSchema

/-- An integer or a text. -/
inductive Atom where
  | int (n : Int32)
  | text (s : String)
deriving DecidableEq, Repr

/-- A single value: an atom, or the fields of a record. -/
inductive Datum where
  | atom (a : Atom)
  | record (fields : List Atom)
deriving DecidableEq, Repr

/-- The value of a column. -/
inductive Value where
  | one (e : Datum)
  | many (es : List Datum)
deriving DecidableEq, Repr

/-- The values of a row, in the order of the columns. -/
abbrev Row := List Value

/-- Whether one key stands before another. -/
def Atom.before : Atom → Atom → Bool
  | .int m, .int n => m < n
  | .text s, .text t => s < t
  | .int _, .text _ => true
  | .text _, .int _ => false

def Atom.display : Atom → String
  | .int n => toString n.toInt
  | .text s => s

def Atom.Fits : FieldType → Atom → Prop
  | .int, .int _ => True
  | .string, .text _ => True
  | _, _ => False

instance : (type : FieldType) → (a : Atom) → Decidable (a.Fits type)
  | .int, .int _ => isTrue trivial
  | .int, .text _ => isFalse id
  | .string, .int _ => isFalse id
  | .string, .text _ => isTrue trivial

/-- The atoms of a record have the types of its fields, one by one. -/
def FieldsFit : List (String × FieldType) → List Atom → Prop
  | [], [] => True
  | field :: fields, a :: atoms => a.Fits field.2 ∧ FieldsFit fields atoms
  | _, _ => False

instance FieldsFit.decidable : (fields : List (String × FieldType)) → (atoms : List Atom) →
    Decidable (FieldsFit fields atoms)
  | [], [] => isTrue trivial
  | [], _ :: _ => isFalse id
  | _ :: _, [] => isFalse id
  | field :: fields, a :: atoms =>
      have := FieldsFit.decidable fields atoms
      inferInstanceAs (Decidable (a.Fits field.2 ∧ FieldsFit fields atoms))

def Datum.Fits : DatumShape → Datum → Prop
  | .atom type, .atom a => a.Fits type
  | .record fields, .record atoms => FieldsFit fields atoms
  | _, _ => False

instance : (shape : DatumShape) → (e : Datum) → Decidable (e.Fits shape)
  | .atom type, .atom a => inferInstanceAs (Decidable (a.Fits type))
  | .atom _, .record _ => isFalse id
  | .record _, .atom _ => isFalse id
  | .record fields, .record atoms => inferInstanceAs (Decidable (FieldsFit fields atoms))

def Value.Fits (column : ColumnLayout) : Value → Prop
  | .one e => column.isList = false ∧ e.Fits column.shape
  | .many es => column.isList = true ∧ ∀ e ∈ es, e.Fits column.shape

instance (column : ColumnLayout) : (value : Value) → Decidable (value.Fits column)
  | .one e => inferInstanceAs (Decidable (column.isList = false ∧ e.Fits column.shape))
  | .many es =>
      inferInstanceAs (Decidable (column.isList = true ∧ ∀ e ∈ es, e.Fits column.shape))

/-- The values of a row belong to the columns, one by one. -/
def RowFits : List ColumnLayout → Row → Prop
  | [], [] => True
  | column :: columns, value :: row => value.Fits column ∧ RowFits columns row
  | _, _ => False

instance RowFits.decidable : (columns : List ColumnLayout) → (row : Row) →
    Decidable (RowFits columns row)
  | [], [] => isTrue trivial
  | [], _ :: _ => isFalse id
  | _ :: _, [] => isFalse id
  | column :: columns, value :: row =>
      have := RowFits.decidable columns row
      inferInstanceAs (Decidable (value.Fits column ∧ RowFits columns row))

end TableSchema
