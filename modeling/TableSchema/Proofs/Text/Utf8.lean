import TableSchema.Text.Utf8

/-!
# Slices of texts

Between two characters of a text a slice may always be cut out, and it holds the characters that
stand there. The byte of an ASCII character is found in no other character.
-/

namespace TableSchema.Bytes

/-! ## Bytes of a character -/

/-- The bytes of characters that are not ASCII are not ASCII either. -/
theorem toNat_eq_of_mem_utf8EncodeChar {c : Char} {b : UInt8} (hmem : b ∈ String.utf8EncodeChar c)
    (hb : b.toNat < 128) : c.toNat = b.toNat := by
  have hval : c.toNat = c.val.toNat := rfl
  unfold String.utf8EncodeChar at hmem
  dsimp only at hmem
  split at hmem
  next hascii =>
    obtain rfl := List.mem_singleton.1 hmem
    rw [UInt8.toNat_ofNat', hval]
    omega
  next =>
    exfalso
    split at hmem
    next =>
      simp only [List.mem_cons, List.not_mem_nil, or_false] at hmem
      rcases hmem with rfl | rfl <;> rw [UInt8.toNat_ofNat'] at hb <;> omega
    next =>
      split at hmem
      next =>
        simp only [List.mem_cons, List.not_mem_nil, or_false] at hmem
        rcases hmem with rfl | rfl | rfl <;> rw [UInt8.toNat_ofNat'] at hb <;> omega
      next =>
        simp only [List.mem_cons, List.not_mem_nil, or_false] at hmem
        rcases hmem with rfl | rfl | rfl | rfl <;> rw [UInt8.toNat_ofNat'] at hb <;> omega

/-- The byte of an ASCII character is in the character only. -/
theorem ne_of_mem_utf8EncodeChar {c d : Char} {b : UInt8} (hd : d.toNat < 128) (hcd : c ≠ d)
    (hmem : b ∈ String.utf8EncodeChar c) : b ≠ UInt8.ofNat d.toNat := by
  rintro rfl
  have hbyte : (UInt8.ofNat d.toNat).toNat = d.toNat := by
    rw [UInt8.toNat_ofNat', Nat.mod_eq_of_lt (by omega)]
  have hsame := toNat_eq_of_mem_utf8EncodeChar hmem (by omega)
  rw [hbyte] at hsame
  exact hcd (Char.toNat_inj.1 hsame)

/-- The NUL byte is in the NUL character only. -/
theorem zero_mem_encode_iff {text : List Char} : 0 ∈ encode text ↔ '\x00' ∈ text := by
  rw [encode, List.mem_flatMap]
  constructor
  · rintro ⟨c, hmem, hzero⟩
    by_cases hc : c = '\x00'
    · exact hc ▸ hmem
    · exact absurd rfl (ne_of_mem_utf8EncodeChar (d := '\x00') (by decide) hc hzero)
  · intro hmem
    exact ⟨'\x00', hmem, List.mem_singleton_self 0⟩

/-- The bytes of a text before its first NUL byte are those of its characters before the first NUL
character. -/
theorem takeWhile_encode (text : List Char) :
    (encode text).takeWhile (· ≠ 0) = encode (text.takeWhile (· ≠ '\x00')) := by
  induction text with
  | nil => rfl
  | cons c rest ih =>
      by_cases hc : c = '\x00'
      · subst hc
        rfl
      · have hbytes : ∀ b ∈ String.utf8EncodeChar c, decide (b ≠ 0) = true := fun b hmem =>
          decide_eq_true (ne_of_mem_utf8EncodeChar (d := '\x00') (by decide) hc hmem)
        rw [encode_cons, List.takeWhile_append_of_pos hbytes, ih,
          List.takeWhile_cons_of_pos (by simpa using hc), encode_cons]

theorem isContinuation_of_isUTF8FirstByte {b : UInt8} (hfirst : b.IsUTF8FirstByte) :
    isContinuation b = false := by
  have hbytes : ∀ n < 256, (UInt8.ofNat n).IsUTF8FirstByte →
      isContinuation (UInt8.ofNat n) = false := by decide +kernel
  have hbyte := hbytes b.toNat b.toNat_lt
  rw [UInt8.ofNat_toNat] at hbyte
  exact hbyte hfirst

/-! ## Slices -/

theorem isBoundary_encode (before after : List Char) :
    isBoundary (encode (before ++ after)) (size before) = true := by
  rw [encode_append, isBoundary, Bool.or_eq_true]
  right
  rw [List.getElem?_append_right (Nat.le_of_eq (length_encode before)), length_encode, Nat.sub_self]
  cases after with
  | nil => simp
  | cons c rest =>
      -- The first byte of the next character is no continuation.
      have hfirst := @UInt8.isUTF8FirstByte_getElem_zero_utf8EncodeChar c
      obtain ⟨b, others, hbytes⟩ := List.exists_cons_of_ne_nil (@String.utf8EncodeChar_ne_nil c)
      simp only [hbytes, List.getElem_cons_zero] at hfirst
      simp [hbytes, isContinuation_of_isUTF8FirstByte hfirst]

theorem extract_encode (before middle after : List Char) :
    (encode (before ++ middle ++ after)).extract (size before) (size (before ++ middle)) =
      encode middle := by
  rw [List.extract, size_append, Nat.add_sub_cancel_left, List.append_assoc, encode_append,
    List.drop_append_of_le_length (Nat.le_of_eq (length_encode before).symm),
    List.drop_of_length_le (Nat.le_of_eq (length_encode before)), List.nil_append, encode_append,
    List.take_append_of_le_length (Nat.le_of_eq (length_encode middle).symm),
    List.take_of_length_le (Nat.le_of_eq (length_encode middle))]

/-- The slice from one character to a later one holds the characters between them. -/
theorem slice_encode (before middle after : List Char) :
    slice (encode (before ++ middle ++ after)) (size before) (size (before ++ middle)) =
      .ok (encode middle) := by
  have hstart : isBoundary (encode (before ++ middle ++ after)) (size before) = true := by
    rw [List.append_assoc]
    exact isBoundary_encode before (middle ++ after)
  have hstop := isBoundary_encode (before ++ middle) after
  rw [slice, hstart, hstop, extract_encode]
  simp

end TableSchema.Bytes
