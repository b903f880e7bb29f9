import TableSchema.Text.Bytes

/-!
# UTF-8

The bytes of a text, and the slices that may be cut out of them. A slice starts and stops between
two characters.
-/

namespace TableSchema.Bytes

/-- The UTF-8 form of a text. -/
def encode (text : List Char) : List UInt8 :=
  text.flatMap String.utf8EncodeChar

/-- Whether a byte goes on with a character that an earlier byte started. -/
def isContinuation (b : UInt8) : Bool :=
  0x80 ≤ b && b < 0xC0

/-- Whether a place lies between two characters or at an end of the text. -/
def isBoundary (bytes : List UInt8) (i : Nat) : Bool :=
  i = 0 || match bytes[i]? with
    | some b => !isContinuation b
    | none => i = bytes.length

/-- Two places between which no slice can be cut out. -/
structure BadSlice where
  start : Nat
  stop : Nat
deriving DecidableEq, Repr

/-- The bytes between two places, which must be in order and must not divide a character. -/
def slice (bytes : List UInt8) (start stop : Nat) : Except BadSlice (List UInt8) :=
  if start ≤ stop && isBoundary bytes start && isBoundary bytes stop then
    .ok (bytes.extract start stop)
  else .error ⟨start, stop⟩

@[simp] theorem encode_nil : encode [] = [] := rfl

@[simp] theorem encode_cons (c : Char) (rest : List Char) :
    encode (c :: rest) = String.utf8EncodeChar c ++ encode rest :=
  List.flatMap_cons

@[simp] theorem encode_append (a b : List Char) : encode (a ++ b) = encode a ++ encode b :=
  List.flatMap_append

@[simp] theorem length_encode (text : List Char) : (encode text).length = size text := by
  induction text with
  | nil => rfl
  | cons c rest ih => simp [size, ih]

theorem toList_toUTF8 (text : String) : text.toUTF8.data.toList = encode text.toList := by
  rw [String.toUTF8_eq_toByteArray, ← String.ofList_toList (s := text), String.toByteArray_ofList,
    List.utf8Encode, List.toList_data_toByteArray, String.toList_ofList, encode]

end TableSchema.Bytes
