import Mathlib.Data.Int.Order.Basic
import Mathlib.Data.List.TakeWhile
import TableSchema.Text.Integer

/-!
# Decimal integers

Both ways to read the integer at the start of a text give the same as long as the blanks before it
are those of ASCII, and an integer written in decimal is read back.
-/

namespace TableSchema.Integer

/-! ## Blanks -/

/-- A text whose leading blanks are all ASCII characters. -/
def AsciiBlanks (text : List Char) : Prop :=
  ∀ c ∈ text.takeWhile Unicode.isWhiteSpace, c.toNat < 128

instance : DecidablePred AsciiBlanks :=
  fun text =>
    List.decidableBAll (fun c : Char => c.toNat < 128) (text.takeWhile Unicode.isWhiteSpace)

theorem isWhiteSpace_iff_of_ascii {c : Char} (hascii : c.toNat < 128) :
    Unicode.isWhiteSpace c = isAsciiBlank c := by
  have hspace : (c = ' ') ↔ c.toNat = 32 := by
    rw [← Char.toNat_inj]
    rfl
  rw [Bool.eq_iff_iff]
  simp [Unicode.isWhiteSpace, Unicode.inRanges, Unicode.whiteSpaceRanges, isAsciiBlank, hspace]
  omega

theorem isAscii_of_isAsciiBlank {c : Char} (hblank : isAsciiBlank c) : c.toNat < 128 := by
  rw [isAsciiBlank, Bool.or_eq_true, decide_eq_true_eq] at hblank
  rcases hblank with rfl | hcontrol
  · decide
  · simp at hcontrol
    omega

theorem dropWhile_isWhiteSpace {text : List Char} (hblanks : AsciiBlanks text) :
    text.dropWhile Unicode.isWhiteSpace = text.dropWhile isAsciiBlank := by
  induction text with
  | nil => rfl
  | cons c rest ih =>
      by_cases hspace : Unicode.isWhiteSpace c
      · rw [AsciiBlanks, List.takeWhile_cons_of_pos hspace, List.forall_mem_cons] at hblanks
        have hblank : isAsciiBlank c := isWhiteSpace_iff_of_ascii hblanks.1 ▸ hspace
        rw [List.dropWhile_cons_of_pos hspace, List.dropWhile_cons_of_pos hblank, ih hblanks.2]
      · have hblank : ¬ isAsciiBlank c := by
          intro hblank
          rw [isWhiteSpace_iff_of_ascii (isAscii_of_isAsciiBlank hblank)] at hspace
          exact hspace hblank
        rw [List.dropWhile_cons_of_neg hspace, List.dropWhile_cons_of_neg hblank]

/-! ## Digits -/

/-- The number written by a run of digits after digits that make `n`. -/
def valueFrom (n : Nat) (digits : List Char) : Nat :=
  digits.foldl (fun n c => 10 * n + digit c) n

theorem le_valueFrom (n : Nat) (digits : List Char) : n ≤ valueFrom n digits := by
  induction digits generalizing n with
  | nil => exact Nat.le_refl n
  | cons c rest ih =>
      have hnext := ih (10 * n + digit c)
      have hle : n ≤ 10 * n + digit c := by omega
      exact Nat.le_trans hle hnext

theorem digit_le {c : Char} (hdigit : c.isDigit) : digit c ≤ 9 := by
  have hbounds : 48 ≤ c.toNat ∧ c.toNat ≤ 57 := by
    simpa [Char.isDigit, UInt32.le_iff_toNat_le] using hdigit
  have hzero : '0'.toNat = 48 := rfl
  rw [digit, hzero]
  omega

/-- The bound is never passed by so much that the 64 bits do not suffice. -/
theorem accumulate_eq {limit n : Nat} (hlimit : limit ≤ 2147483648) (hn : n ≤ limit)
    (text : List Char) :
    accumulate (.ofNat limit) (.ofNat n) text =
      if valueFrom n (text.takeWhile Char.isDigit) ≤ limit then
        some (.ofNat (valueFrom n (text.takeWhile Char.isDigit)))
      else none := by
  induction text generalizing n with
  | nil => simp [accumulate, valueFrom, hn]
  | cons c rest ih =>
      by_cases hdigit : c.isDigit
      case neg => simp [accumulate, hdigit, valueFrom, hn]
      case pos =>
        have hle := digit_le hdigit
        have hnext : Int64.ofNat n * 10 + .ofNat (digit c) = .ofNat (10 * n + digit c) := by
          rw [Nat.mul_comm, Int64.ofNat_add, Int64.ofNat_mul]
          rfl
        have hlt : Int64.ofNat limit < .ofNat (10 * n + digit c) ↔ limit < 10 * n + digit c := by
          rw [Int64.lt_iff_toInt_lt, Int64.toInt_ofNat_of_lt (by omega),
            Int64.toInt_ofNat_of_lt (by omega)]
          omega
        have hvalue : valueFrom n (c :: rest.takeWhile Char.isDigit) =
            valueFrom (10 * n + digit c) (rest.takeWhile Char.isDigit) := rfl
        rw [accumulate, if_pos hdigit, List.takeWhile_cons_of_pos hdigit, hvalue, hnext]
        by_cases hpassed : limit < 10 * n + digit c
        · have hmore := le_valueFrom (10 * n + digit c) (rest.takeWhile Char.isDigit)
          rw [if_pos (hlt.2 hpassed), if_neg (by omega)]
        · rw [if_neg (fun h => hpassed (hlt.1 h)), ih (by omega)]

/-- Digit by digit the same number is read as from all digits at once. -/
theorem readAscii_eq (text : List Char) :
    readAscii text =
      let (negative, rest) := sign (text.dropWhile isAsciiBlank)
      bounded (if negative then -(value (rest.takeWhile Char.isDigit) : Int)
        else value (rest.takeWhile Char.isDigit)) := by
  rw [readAscii]
  obtain ⟨negative, rest⟩ := sign (text.dropWhile isAsciiBlank)
  have hvalue : value (rest.takeWhile Char.isDigit) =
      valueFrom 0 (rest.takeWhile Char.isDigit) := rfl
  dsimp only
  rw [hvalue]
  generalize hn : valueFrom 0 (rest.takeWhile Char.isDigit) = n
  cases negative with
  | false =>
      have hread := @accumulate_eq 2147483647 0 (by omega) (by omega) rest
      have haccumulate : accumulate (magnitudeLimit false) 0 rest = _ := hread
      have hbounds : -2147483648 ≤ (n : Int) ∧ (n : Int) ≤ 2147483647 ↔ n ≤ 2147483647 := by omega
      rw [haccumulate, hn, if_neg Bool.false_ne_true, bounded]
      by_cases hfits : n ≤ 2147483647
      · rw [if_pos hfits, if_pos (hbounds.2 hfits)]
        simp [Int32.ofInt_eq_ofNat]
      · rw [if_neg hfits, if_neg (hbounds.not.2 hfits)]
  | true =>
      have hread := @accumulate_eq 2147483648 0 (by omega) (by omega) rest
      have haccumulate : accumulate (magnitudeLimit true) 0 rest = _ := hread
      have hbounds : -2147483648 ≤ -(n : Int) ∧ -(n : Int) ≤ 2147483647 ↔ n ≤ 2147483648 := by
        omega
      rw [haccumulate, hn, if_pos rfl, bounded]
      by_cases hfits : n ≤ 2147483648
      · rw [if_pos hfits, if_pos (hbounds.2 hfits)]
        simp [Int32.ofInt_eq_ofNat, Int32.ofInt_neg]
      · rw [if_neg hfits, if_neg (hbounds.not.2 hfits)]

/-- Both ways to read an integer agree on texts with blanks that both know. -/
theorem read_eq_readAscii {text : List Char} (hblanks : AsciiBlanks text) :
    read text = readAscii text := by
  rw [read, readAscii_eq, dropWhile_isWhiteSpace hblanks]

/-! ## Decimal texts -/

theorem decimal_of_nonneg {n : Int32} (hnonneg : 0 ≤ n.toInt) :
    decimal n = Nat.toDigits 10 n.toInt.toNat := by
  rw [decimal, Int.toString_eq_repr, Int.repr_eq_if, if_pos hnonneg, Nat.toList_repr]

theorem decimal_of_neg {n : Int32} (hneg : ¬ 0 ≤ n.toInt) :
    decimal n = '-' :: Nat.toDigits 10 (-n.toInt).toNat := by
  rw [decimal, Int.toString_eq_repr, Int.repr_eq_if, if_neg hneg, String.toList_append,
    Nat.toList_repr]
  rfl

theorem isDigit_of_mem_toDigits {n : Nat} {c : Char} (hmem : c ∈ Nat.toDigits 10 n) :
    c.isDigit :=
  Nat.isDigit_of_mem_toDigits (by decide) (by decide) hmem

theorem mem_decimal {n : Int32} {c : Char} (hmem : c ∈ decimal n) : c = '-' ∨ c.isDigit := by
  by_cases hnonneg : 0 ≤ n.toInt
  · rw [decimal_of_nonneg hnonneg] at hmem
    exact .inr (isDigit_of_mem_toDigits hmem)
  · rw [decimal_of_neg hnonneg, List.mem_cons] at hmem
    exact hmem.imp_right isDigit_of_mem_toDigits

theorem not_isWhiteSpace_of_isDigit {c : Char} (hdigit : c.isDigit) :
    Unicode.isWhiteSpace c = false := by
  have hbounds : 48 ≤ c.toNat ∧ c.toNat ≤ 57 := by
    simpa [Char.isDigit, UInt32.le_iff_toNat_le] using hdigit
  simp [Unicode.isWhiteSpace, Unicode.inRanges, Unicode.whiteSpaceRanges]
  omega

/-- A run of digits is read as the number it writes, and a sign before it counts. -/
theorem read_toDigits (n : Nat) : read (Nat.toDigits 10 n) = bounded n ∧
    read ('-' :: Nat.toDigits 10 n) = bounded (-n) := by
  have hdigits : ∀ c ∈ Nat.toDigits 10 n, c.isDigit := fun c => isDigit_of_mem_toDigits
  have hvalue : value (Nat.toDigits 10 n) = n := Nat.ofDigitChars_ten_toDigits
  have hrun : (Nat.toDigits 10 n).takeWhile Char.isDigit = Nat.toDigits 10 n :=
    List.takeWhile_eq_self_iff.2 hdigits
  -- The text starts with a digit, so there are no blanks to skip and no sign to take off.
  obtain ⟨c, rest, hcons⟩ := List.exists_cons_of_ne_nil (@Nat.toDigits_ne_nil n 10)
  have hfirst : c.isDigit := hdigits c (hcons ▸ List.mem_cons_self)
  have hspace := not_isWhiteSpace_of_isDigit hfirst
  constructor
  · have hsign : sign (Nat.toDigits 10 n) = (false, Nat.toDigits 10 n) := by
      rw [hcons]
      unfold sign
      split <;> simp_all
    have hskip : (Nat.toDigits 10 n).dropWhile Unicode.isWhiteSpace = Nat.toDigits 10 n := by
      rw [hcons, List.dropWhile_cons_of_neg (by simp [hspace])]
    simp [read, hskip, hsign, hrun, hvalue]
  · have hminus : Unicode.isWhiteSpace '-' = false := by decide
    simp [read, hminus, sign, hrun, hvalue]

/-- An integer written in decimal is read back. -/
theorem read_decimal (n : Int32) : read (decimal n) = n := by
  have hlower := n.le_toInt
  have hupper := n.toInt_lt
  have hbounds : -2147483648 ≤ n.toInt ∧ n.toInt ≤ 2147483647 := by omega
  have hbounded : bounded n.toInt = n := by
    rw [bounded, if_pos hbounds, Int32.ofInt_toInt]
  by_cases hnonneg : 0 ≤ n.toInt
  · rw [decimal_of_nonneg hnonneg, (read_toDigits _).1, Int.toNat_of_nonneg hnonneg, hbounded]
  · have hneg : (-n.toInt).toNat = -n.toInt := Int.toNat_of_nonneg (by omega)
    rw [decimal_of_neg hnonneg, (read_toDigits _).2, hneg, Int.neg_neg, hbounded]

end TableSchema.Integer
