import TableSchema.Text.Utf8

/-!
# Rows by bytes

The runtimes of generated readers go through the bytes of a text and know places only: where they
are, and where the cell at hand starts. Each has its own way of cutting a cell out of the text and
of taking the quotes off it. Either may fail at places that are no bounds of a slice, and then there
is no row.
-/

namespace TableSchema

/-- What a reader has seen of a cell. -/
inductive CellState where
  /-- Nothing. -/
  | start
  /-- Something, and no carriage return at its end. -/
  | inside
  /-- Something that ends with a carriage return. -/
  | afterReturn
deriving DecidableEq, Repr

/-- The bytes of a text and the place at which the next row starts. -/
structure ByteReader where
  bytes : List UInt8
  index : Nat
deriving DecidableEq, Repr

namespace ByteReader

open Bytes (BadSlice slice)

def tab : UInt8 := 0x09

def lineFeed : UInt8 := 0x0A

def carriageReturn : UInt8 := 0x0D

def quote : UInt8 := 0x22

/-- Takes the cell between two places out of the bytes of a text. -/
abbrev CellCutter := List UInt8 → Nat → Nat → Except BadSlice (List UInt8)

section Scan

variable (cut : Nat → Nat → Except BadSlice (List UInt8))

/-- The state after a byte that ends no cell. -/
def stateAfter (b : UInt8) : CellState :=
  if b = carriageReturn then .afterReturn else .inside

/-- The cell that ends before the place `i`. At the start of a cell nothing is cut out. -/
def cellBefore (state : CellState) (cellStart i : Nat) : Except BadSlice (List UInt8) :=
  if state = .start then .ok [] else cut cellStart i

/-- Reads a row from the place `i` on, at which `rest` stands, with a cell that starts at
`cellStart`. Gives the cells and the place after the row. -/
def scan : CellState → (cellStart i : Nat) → (rest : List UInt8) →
    Except BadSlice (List (List UInt8) × Nat)
  | _, cellStart, i, [] => do return ([← cut cellStart i], i)
  | state, cellStart, i, b :: rest =>
      if state = .afterReturn && b = lineFeed then do
        return ([← cut cellStart (i - 1)], i + 1)
      else if state ≠ .afterReturn && b = tab then do
        let cell ← cellBefore cut state cellStart i
        let (cells, after) ← scan .start (i + 1) (i + 1) rest
        return (cell :: cells, after)
      else scan (stateAfter b) cellStart (i + 1) rest

variable {cut}

/-- A row ends after the place at which it is read, save at the end of the text. -/
theorem scan_advances {state : CellState} {cellStart i after : Nat} {rest : List UInt8}
    {cells : List (List UInt8)} (h : scan cut state cellStart i rest = .ok (cells, after)) :
    i ≤ after ∧ (rest ≠ [] → i < after) := by
  induction rest generalizing state cellStart i cells after with
  | nil =>
      cases hcut : cut cellStart i <;> rw [scan, hcut] at h <;> cases h
      simp
  | cons b rest ih =>
      suffices hlt : i < after from ⟨Nat.le_of_lt hlt, fun _ => hlt⟩
      simp only [scan] at h
      split at h
      · cases hcut : cut cellStart (i - 1) <;> rw [hcut] at h <;> cases h
        exact Nat.lt_succ_self i
      · split at h
        · cases hcell : cellBefore cut state cellStart i <;> rw [hcell] at h
          · cases h
          · cases hscan : scan cut .start (i + 1) (i + 1) rest <;> rw [hscan] at h <;> cases h
            exact (ih hscan).1
        · exact (ih h).1

end Scan

def ofText (text : String) : ByteReader :=
  ⟨text.toUTF8.data.toList, 0⟩

/-- The cells of the next row, and the reader after it. -/
def next? (cutter : CellCutter) (reader : ByteReader) :
    Except BadSlice (Option (List (List UInt8) × ByteReader)) :=
  if reader.bytes.length ≤ reader.index then .ok none
  else do
    let rest := reader.bytes.drop reader.index
    let (cells, after) ← scan (cutter reader.bytes) .start reader.index reader.index rest
    return some (cells, { reader with index := after })

theorem next?_advances {cutter : CellCutter} {reader next : ByteReader}
    {cells : List (List UInt8)} (h : reader.next? cutter = .ok (some (cells, next))) :
    next.bytes = reader.bytes ∧ reader.index < next.index ∧
      reader.index < reader.bytes.length := by
  unfold next? at h
  split at h
  next => cases h
  next hmore =>
    have hindex : reader.index < reader.bytes.length := Nat.lt_of_not_le hmore
    cases hscan : scan (cutter reader.bytes) .start reader.index reader.index
      (reader.bytes.drop reader.index) <;> simp only [hscan] at h <;> cases h
    exact ⟨rfl, (scan_advances hscan).2 (by simpa using hindex), hindex⟩

/-- All rows that are left, each with the place after it. -/
def rows (cutter : CellCutter) (reader : ByteReader) :
    Except BadSlice (List (List (List UInt8) × Nat)) :=
  match _h : reader.next? cutter with
  | .error bad => .error bad
  | .ok none => .ok []
  | .ok (some (cells, next)) => do return (cells, next.index) :: (← rows cutter next)
termination_by reader.bytes.length - reader.index
decreasing_by
  obtain ⟨hbytes, hgrows, hindex⟩ := next?_advances _h
  rw [hbytes]
  omega

/-! ## Cells -/

/-- Replaces pairs of quotes by one quote, from left to right. -/
def pairQuotes : List UInt8 → List UInt8
  | [] => []
  | [b] => [b]
  | b :: c :: rest =>
      if b = quote && c = quote then quote :: pairQuotes rest else b :: pairQuotes (c :: rest)

/-- Slices a cell out of the text, and what it encloses in quotes out of the cell. -/
def cutAndReplace : CellCutter := fun bytes start stop => do
  let cell ← slice bytes start stop
  if 2 ≤ cell.length && cell.head? = some quote && cell.getLast? = some quote then
    return pairQuotes (← slice cell 1 (cell.length - 1))
  else return cell

/-- The bytes from the place `i` up to a limit, without the second of two quotes in a row. -/
def copyUpTo (limit : Nat) (bytes : List UInt8) (i : Nat) : List UInt8 :=
  if i < limit then
    match bytes[i]? with
    | none => []
    | some b =>
        if b = quote && i + 1 < limit && bytes[i + 1]? = some quote then
          b :: copyUpTo limit bytes (i + 2)
        else b :: copyUpTo limit bytes (i + 1)
  else []
termination_by limit - i

/-- Copies a cell out of the text, byte by byte if it is enclosed in quotes. -/
def copyAndSkip : CellCutter := fun bytes start stop =>
  if start ≤ stop && stop ≤ bytes.length then
    if stop - start < 2 || bytes[start]? ≠ some quote || bytes[stop - 1]? ≠ some quote then
      .ok (bytes.extract start stop)
    else .ok (copyUpTo (stop - 1) bytes (start + 1))
  else .error ⟨start, stop⟩

end ByteReader

end TableSchema
