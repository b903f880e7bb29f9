/-!
# Texts by bytes

Lengths and cuts of a text counted in the bytes of its UTF-8 form.
-/

namespace TableSchema.Bytes

def size : List Char → Nat
  | [] => 0
  | c :: rest => c.utf8Size + size rest

/-- What remains of a text after its first `n` bytes. A character that the cut would divide goes
with the bytes before the cut. -/
def drop : Nat → List Char → List Char
  | _, [] => []
  | 0, cs => cs
  | n + 1, c :: rest => drop (n + 1 - c.utf8Size) rest

@[simp] theorem size_append (a b : List Char) : size (a ++ b) = size a + size b := by
  induction a with
  | nil => simp [size]
  | cons c rest ih => simp [size, ih, Nat.add_assoc]

@[simp] theorem drop_size_append (a b : List Char) : drop (size a) (a ++ b) = b := by
  induction a with
  | nil => cases b <;> simp [size, drop]
  | cons c rest ih =>
      have hpos := Char.utf8Size_pos c
      obtain ⟨n, hn⟩ : ∃ n, size (c :: rest) = n + 1 := ⟨c.utf8Size + size rest - 1, by
        simp only [size]; omega⟩
      rw [hn, List.cons_append, drop, show n + 1 - c.utf8Size = size rest by
        simp only [size] at hn; omega, ih]

end TableSchema.Bytes
