import Mathlib.Data.Nat.Digits.Defs
import Mathlib.Logic.Relation
import TableSchema.Proofs.Text.Integers

/-!
# The number at the start of a text

Every text opens in just one way with blanks, a sign that may be missing, and as many digits as
there are. The number that these write is what both ways to read an integer give, or zero if it does
not fit. The 64 bits in which it is summed up by the one that goes digit by digit suffice for every
text.
-/

namespace TableSchema.Integer

/-- A text taken apart. -/
structure Opening where
  blanks : List Char
  sign : Option Char
  digits : List Char
  rest : List Char

namespace Opening

/-- A text starts with blanks, a sign and digits, none of which goes on in what follows it. -/
structure Opens (isBlank : Char → Bool) (text : List Char) (opening : Opening) : Prop where
  text_eq : text = opening.blanks ++ (opening.sign.toList ++ (opening.digits ++ opening.rest))
  blanks : ∀ c ∈ opening.blanks, isBlank c
  blanksEnd : ∀ c ∈ (opening.sign.toList ++ (opening.digits ++ opening.rest)).head?, ¬ isBlank c
  sign : ∀ c ∈ opening.sign, c = '+' ∨ c = '-'
  signed : opening.sign = none → ∀ c ∈ (opening.digits ++ opening.rest).head?, c ≠ '+' ∧ c ≠ '-'
  digits : ∀ c ∈ opening.digits, c.isDigit
  digitsEnd : ∀ c ∈ opening.rest.head?, ¬ c.isDigit

/-- The number that the sign and the digits write, zero if there are no digits. -/
def number (opening : Opening) : Int :=
  let magnitude : Nat := Nat.ofDigits 10 (opening.digits.map digit).reverse
  if opening.sign = some '-' then -magnitude else magnitude

/-- The number if there is one and 32 bits suffice for it, and zero otherwise. -/
def reading (opening : Opening) : Int :=
  if opening.digits ≠ [] ∧ -2 ^ 31 ≤ opening.number ∧ opening.number ≤ 2 ^ 31 - 1 then
    opening.number
  else 0

end Opening

/-! ## Taking a text apart -/

theorem takeWhile_append_of_end {p : Char → Bool} {run rest : List Char} (hrun : ∀ c ∈ run, p c)
    (hend : ∀ c ∈ rest.head?, ¬ p c) :
    (run ++ rest).takeWhile p = run ∧ (run ++ rest).dropWhile p = rest := by
  have hrest : rest.takeWhile p = [] ∧ rest.dropWhile p = rest := by
    cases rest with
    | nil => exact ⟨rfl, rfl⟩
    | cons c rest =>
        have hc : ¬ p c := hend c rfl
        exact ⟨List.takeWhile_cons_of_neg hc, List.dropWhile_cons_of_neg hc⟩
  rw [List.takeWhile_append_of_pos hrun, List.dropWhile_append_of_pos hrun, hrest.1, hrest.2,
    List.append_nil]
  exact ⟨rfl, rfl⟩

theorem not_of_mem_head?_dropWhile {p : Char → Bool} {text : List Char} {c : Char}
    (hc : c ∈ (text.dropWhile p).head?) : ¬ p c := by
  have hnot := List.head?_dropWhile_not p text
  rw [Option.mem_def.1 hc] at hnot
  simpa using hnot

theorem sign_of_none {text : List Char} (hunsigned : ∀ c ∈ text.head?, c ≠ '+' ∧ c ≠ '-') :
    sign text = (false, text) := by
  unfold sign
  split
  · exact absurd rfl (hunsigned _ rfl).2
  · exact absurd rfl (hunsigned _ rfl).1
  · rfl

namespace Opening.Opens

variable {isBlank : Char → Bool} {text : List Char} {opening other : Opening}
  (hopens : opening.Opens isBlank text)
include hopens

theorem takeWhile_eq : text.takeWhile isBlank = opening.blanks := by
  rw [hopens.text_eq]
  exact (takeWhile_append_of_end hopens.blanks hopens.blanksEnd).1

theorem dropWhile_eq :
    text.dropWhile isBlank = opening.sign.toList ++ (opening.digits ++ opening.rest) := by
  rw [hopens.text_eq]
  exact (takeWhile_append_of_end hopens.blanks hopens.blanksEnd).2

theorem sign_eq : Integer.sign (text.dropWhile isBlank) =
    (decide (opening.sign = some '-'), opening.digits ++ opening.rest) := by
  rw [hopens.dropWhile_eq]
  cases hsign : opening.sign with
  | none => exact sign_of_none (hopens.signed hsign)
  | some c =>
      rcases hopens.sign c hsign with rfl | rfl
      · rfl
      · rfl

theorem digits_eq : (opening.digits ++ opening.rest).takeWhile Char.isDigit = opening.digits :=
  (takeWhile_append_of_end hopens.digits hopens.digitsEnd).1

theorem rest_eq : (opening.digits ++ opening.rest).dropWhile Char.isDigit = opening.rest :=
  (takeWhile_append_of_end hopens.digits hopens.digitsEnd).2

/-- A text is taken apart in one way. -/
theorem unique (hother : other.Opens isBlank text) : other = opening := by
  have hsigned := hother.sign_eq.symm.trans hopens.sign_eq
  have htail : other.digits ++ other.rest = opening.digits ++ opening.rest :=
    (Prod.mk.inj hsigned).2
  have hdigits : other.digits = opening.digits := by
    rw [← hother.digits_eq, htail, hopens.digits_eq]
  have hrest : other.rest = opening.rest := by
    rw [← hother.rest_eq, htail, hopens.rest_eq]
  have hblanks : other.blanks = opening.blanks := by
    rw [← hother.takeWhile_eq, hopens.takeWhile_eq]
  have hsign : other.sign = opening.sign := by
    have hsigns := hother.dropWhile_eq.symm.trans hopens.dropWhile_eq
    rw [htail, List.append_cancel_right_eq] at hsigns
    cases hfirst : other.sign <;> cases hsecond : opening.sign <;> simp_all
  cases other
  cases opening
  simp_all

end Opening.Opens

/-- Every text can be taken apart. -/
theorem exists_opening (isBlank : Char → Bool) (text : List Char) :
    ∃ opening : Opening, opening.Opens isBlank text := by
  have hblanks : ∀ c ∈ text.takeWhile isBlank, isBlank c := fun c => List.mem_takeWhile_imp
  have hend : ∀ c ∈ (text.dropWhile isBlank).head?, ¬ isBlank c := fun c =>
    not_of_mem_head?_dropWhile
  have hparts (tail : List Char) :
      tail.takeWhile Char.isDigit ++ tail.dropWhile Char.isDigit = tail :=
    List.takeWhile_append_dropWhile
  have hdigits (tail : List Char) : ∀ c ∈ tail.takeWhile Char.isDigit, c.isDigit := fun c =>
    List.mem_takeWhile_imp
  have hdigitsEnd (tail : List Char) : ∀ c ∈ (tail.dropWhile Char.isDigit).head?, ¬ c.isDigit :=
    fun c => not_of_mem_head?_dropWhile
  by_cases hsigned : ∃ c tail, text.dropWhile isBlank = c :: tail ∧ (c = '+' ∨ c = '-')
  · obtain ⟨c, tail, htail, hsign⟩ := hsigned
    refine ⟨⟨text.takeWhile isBlank, some c, tail.takeWhile Char.isDigit,
      tail.dropWhile Char.isDigit⟩, ?_, hblanks, ?_, ?_, ?_, hdigits tail, hdigitsEnd tail⟩
    · simp [hparts, ← htail]
    · simpa [hparts, ← htail] using hend
    · simpa using hsign
    · simp
  · let tail := text.dropWhile isBlank
    refine ⟨⟨text.takeWhile isBlank, none, tail.takeWhile Char.isDigit,
      tail.dropWhile Char.isDigit⟩, ?_, hblanks, ?_, ?_, ?_, hdigits tail, hdigitsEnd tail⟩
    · simp [hparts, tail]
    · simpa [hparts] using hend
    · simp
    · intro _ c hc
      rw [hparts] at hc
      obtain ⟨others, hothers⟩ := List.head?_eq_some_iff.1 hc
      exact not_or.1 fun hsign => hsigned ⟨c, others, hothers, hsign⟩

/-! ## What is read -/

/-- Digits after a number move its digits to the left. -/
theorem valueFrom_eq_ofDigits (n : Nat) (digits : List Char) :
    valueFrom n digits =
      n * 10 ^ digits.length + Nat.ofDigits 10 (digits.map digit).reverse := by
  induction digits generalizing n with
  | nil => simp [valueFrom]
  | cons c rest ih =>
      have hvalue : valueFrom n (c :: rest) = valueFrom (10 * n + digit c) rest := rfl
      rw [hvalue, ih, List.map_cons, List.reverse_cons, Nat.ofDigits_append, List.length_cons,
        List.length_reverse, List.length_map, Nat.ofDigits_singleton]
      ring

namespace Opening

theorem number_eq (opening : Opening) :
    opening.number =
      if decide (opening.sign = some '-') then -(value opening.digits : Int)
      else value opening.digits := by
  have hvalue : value opening.digits = Nat.ofDigits 10 (opening.digits.map digit).reverse := by
    have h := valueFrom_eq_ofDigits 0 opening.digits
    rwa [Nat.zero_mul, Nat.zero_add] at h
  rw [number, hvalue]
  simp

theorem toInt_bounded_number (opening : Opening) :
    (bounded opening.number).toInt = opening.reading := by
  unfold bounded reading
  by_cases hdigits : opening.digits = []
  · have hzero : opening.number = 0 := by
      rw [number_eq, hdigits]
      simp [value]
    simp [hdigits, hzero]
  · have hfits : (-2147483648 ≤ opening.number ∧ opening.number ≤ 2147483647) ↔
        opening.digits ≠ [] ∧ -2 ^ 31 ≤ opening.number ∧ opening.number ≤ 2 ^ 31 - 1 := by
      simp [hdigits]
    by_cases hbounds : -2147483648 ≤ opening.number ∧ opening.number ≤ 2147483647
    · rw [if_pos hbounds, if_pos (hfits.1 hbounds)]
      exact Int32.toInt_ofInt_of_le (by omega) (by omega)
    · rw [if_neg hbounds, if_neg (hfits.not.1 hbounds)]
      rfl

variable {text : List Char} {opening : Opening}

theorem Opens.toInt_read (hopens : opening.Opens Unicode.isWhiteSpace text) :
    (read text).toInt = opening.reading := by
  rw [read, hopens.sign_eq]
  dsimp only
  rw [hopens.digits_eq, ← number_eq, toInt_bounded_number]

theorem Opens.toInt_readAscii (hopens : opening.Opens isAsciiBlank text) :
    (readAscii text).toInt = opening.reading := by
  rw [readAscii_eq, hopens.sign_eq]
  dsimp only
  rw [hopens.digits_eq, ← number_eq, toInt_bounded_number]

end Opening

/-- The blanks of ASCII end at a character beyond it if one that is blank follows. -/
theorem exists_beyond_ascii {text : List Char} (hblanks : ¬ AsciiBlanks text) :
    ∃ c rest, text.dropWhile isAsciiBlank = c :: rest ∧ 128 ≤ c.toNat := by
  induction text with
  | nil => exact absurd (by decide) hblanks
  | cons c rest ih =>
      by_cases hascii : c.toNat < 128
      case neg =>
        refine ⟨c, rest, List.dropWhile_cons_of_neg ?_, by omega⟩
        exact fun hblank => hascii (isAscii_of_isAsciiBlank hblank)
      case pos =>
        -- An ASCII character before such a blank is a blank that is skipped.
        have hspace : Unicode.isWhiteSpace c := by
          by_contra hspace
          exact hblanks (by simp [AsciiBlanks, hspace])
        have hrest : ¬ AsciiBlanks rest := by
          rw [AsciiBlanks, List.takeWhile_cons_of_pos hspace, List.forall_mem_cons] at hblanks
          exact fun h => hblanks ⟨hascii, h⟩
        rw [isWhiteSpace_iff_of_ascii hascii] at hspace
        rw [List.dropWhile_cons_of_pos hspace]
        exact ih hrest

/-- A blank beyond ASCII is neither skipped nor a sign nor a digit. -/
theorem readAscii_of_not_asciiBlanks {text : List Char} (hblanks : ¬ AsciiBlanks text) :
    readAscii text = 0 := by
  obtain ⟨c, rest, hdrop, hc⟩ := exists_beyond_ascii hblanks
  have hdigit : c.isDigit = false := by
    simp [Char.isDigit, UInt32.le_iff_toNat_le]
    omega
  have hsign : sign (c :: rest) = (false, c :: rest) := by
    apply sign_of_none
    intro d hd
    obtain rfl : c = d := Option.some.inj hd
    constructor <;> rintro rfl <;> exact absurd hc (by decide)
  rw [readAscii_eq, hdrop, hsign]
  simp [hdigit, value, bounded]

/-! ## Sums in 64 bits -/

/-- A digit is taken up: the sum of those before it and the digits that are left, before and
after. -/
inductive TakesDigit (limit : Int64) : Int64 × List Char → Int64 × List Char → Prop where
  | digit {sum : Int64} {c : Char} {rest : List Char} (hdigit : c.isDigit)
      (hfits : ¬ limit < sum * 10 + .ofNat (digit c)) :
      TakesDigit limit (sum, c :: rest) (sum * 10 + .ofNat (digit c), rest)

theorem TakesDigit.accumulate_eq {limit : Int64} {state next : Int64 × List Char}
    (hstep : TakesDigit limit state next) :
    accumulate limit state.1 state.2 = accumulate limit next.1 next.2 := by
  obtain ⟨hdigit, hfits⟩ := hstep
  rw [accumulate, if_pos hdigit]
  exact if_neg hfits

/-- A sum that has not passed the limit. -/
def WithinLimit (negative : Bool) (sum : Int64) : Prop :=
  0 ≤ sum.toInt ∧ sum.toInt ≤ (magnitudeLimit negative).toInt

theorem toInt_magnitudeLimit_le (negative : Bool) :
    (magnitudeLimit negative).toInt ≤ 2147483648 := by
  cases negative <;> decide

/-- The sum with another digit is the same as in unbounded numbers. -/
theorem WithinLimit.toInt_next {negative : Bool} {sum : Int64} (hsum : WithinLimit negative sum)
    {c : Char} (hdigit : c.isDigit) :
    (sum * 10).toInt = sum.toInt * 10 ∧
      (sum * 10 + .ofNat (digit c)).toInt = sum.toInt * 10 + digit c := by
  have hlimit := toInt_magnitudeLimit_le negative
  obtain ⟨hlower, hupper⟩ := hsum
  have hle := digit_le hdigit
  have hten : (10 : Int64).toInt = 10 := rfl
  have hshifted : (sum * 10).toInt = sum.toInt * 10 := by
    rw [Int64.toInt_mul, hten]
    exact Int.bmod_eq_of_le (by omega) (by omega)
  refine ⟨hshifted, ?_⟩
  rw [Int64.toInt_add, hshifted, Int64.toInt_ofNat_of_lt (by omega)]
  exact Int.bmod_eq_of_le (by omega) (by omega)

theorem TakesDigit.withinLimit {negative : Bool} {state next : Int64 × List Char}
    (hstep : TakesDigit (magnitudeLimit negative) state next)
    (hstate : WithinLimit negative state.1) : WithinLimit negative next.1 := by
  obtain ⟨hdigit, hfits⟩ := hstep
  have hnext := (hstate.toInt_next hdigit).2
  have hlower := hstate.1
  rw [Int64.lt_iff_toInt_lt] at hfits
  dsimp only at hnext hlower
  exact ⟨hnext ▸ by omega, Int.not_lt.1 hfits⟩

/-- No digit that is taken up takes the sum past its limit. -/
theorem withinLimit_of_takesDigits {negative : Bool} {text : List Char}
    {state : Int64 × List Char}
    (hsteps : Relation.ReflTransGen (TakesDigit (magnitudeLimit negative)) (0, text) state) :
    WithinLimit negative state.1 ∧
      accumulate (magnitudeLimit negative) 0 text =
        accumulate (magnitudeLimit negative) state.1 state.2 := by
  induction hsteps with
  | refl =>
      have hzero : WithinLimit negative 0 := by cases negative <;> exact ⟨by decide, by decide⟩
      exact ⟨hzero, rfl⟩
  | tail _ hstep ih => exact ⟨hstep.withinLimit ih.1, ih.2.trans hstep.accumulate_eq⟩

/-- What is summed up is the sum after the last digit that is taken up. -/
theorem exists_takesDigits {limit sum last : Int64} {text : List Char}
    (haccumulate : accumulate limit sum text = some last) :
    ∃ rest, Relation.ReflTransGen (TakesDigit limit) (sum, text) (last, rest) := by
  induction text generalizing sum with
  | nil =>
      obtain rfl := Option.some.inj haccumulate
      exact ⟨[], .refl⟩
  | cons c rest ih =>
      rw [accumulate] at haccumulate
      split at haccumulate
      next hdigit =>
        dsimp only at haccumulate
        split at haccumulate
        next => cases haccumulate
        next hfits =>
          obtain ⟨left, hsteps⟩ := ih haccumulate
          exact ⟨left, .head (.digit hdigit hfits) hsteps⟩
      next =>
        obtain rfl := Option.some.inj haccumulate
        exact ⟨c :: rest, .refl⟩

/-- Nothing is lost when the sum is given its sign and put into 32 bits. -/
theorem WithinLimit.toInt_toInt32 {negative : Bool} {sum : Int64}
    (hsum : WithinLimit negative sum) :
    (if negative then -sum else sum).toInt32.toInt =
      if negative then -sum.toInt else sum.toInt := by
  obtain ⟨hlower, hupper⟩ := hsum
  cases negative with
  | false =>
      have hlimit : (magnitudeLimit false).toInt = 2147483647 := rfl
      rw [if_neg Bool.false_ne_true, if_neg Bool.false_ne_true, Int64.toInt_toInt32]
      exact Int.bmod_eq_of_le (by omega) (by omega)
  | true =>
      have hlimit : (magnitudeLimit true).toInt = 2147483648 := rfl
      have hneg : (-sum).toInt = -sum.toInt := by
        rw [Int64.toInt_neg]
        exact Int.bmod_eq_of_le (by omega) (by omega)
      rw [if_pos rfl, if_pos rfl, Int64.toInt_toInt32, hneg]
      exact Int.bmod_eq_of_le (by omega) (by omega)

/-! ## Decimal texts among others -/

section Decimal

variable {isBlank : Char → Bool} {blanks rest : List Char}
  (hblanks : ∀ c ∈ blanks, isBlank c) (hmarks : ∀ c, c = '-' ∨ c.isDigit → ¬ isBlank c)
  (hrest : ∀ c ∈ rest.head?, ¬ c.isDigit)
include hblanks hmarks hrest

/-- Blanks, the decimal text of an integer and something that does not go on with it are what a text
opens with. -/
theorem exists_opening_decimal (n : Int32) :
    ∃ opening : Opening, opening.Opens isBlank (blanks ++ decimal n ++ rest) ∧
      opening.digits ≠ [] ∧ opening.number = n.toInt := by
  have hdigits (k : Nat) : ∀ c ∈ Nat.toDigits 10 k, c.isDigit := fun c => isDigit_of_mem_toDigits
  have hfirst (k : Nat) : ∀ c ∈ (Nat.toDigits 10 k ++ rest).head?, c.isDigit := by
    obtain ⟨d, others, hcons⟩ := List.exists_cons_of_ne_nil (@Nat.toDigits_ne_nil k 10)
    intro c hc
    rw [hcons] at hc
    obtain rfl : d = c := Option.some.inj hc
    exact hdigits k d (hcons ▸ List.mem_cons_self)
  have hvalue (k : Nat) : value (Nat.toDigits 10 k) = k := Nat.ofDigitChars_ten_toDigits
  by_cases hnonneg : 0 ≤ n.toInt
  · refine ⟨⟨blanks, none, Nat.toDigits 10 n.toInt.toNat, rest⟩,
      ⟨?_, hblanks, ?_, by simp, fun _ => ?_, hdigits _, hrest⟩, Nat.toDigits_ne_nil, ?_⟩
    · rw [decimal_of_nonneg hnonneg]
      simp
    · exact fun c hc => hmarks c (.inr (hfirst _ c hc))
    · intro c hc
      have hdigit := hfirst _ c hc
      constructor <;> rintro rfl <;> exact absurd hdigit (by decide)
    · rw [Opening.number_eq, hvalue]
      exact Int.toNat_of_nonneg hnonneg
  · refine ⟨⟨blanks, some '-', Nat.toDigits 10 (-n.toInt).toNat, rest⟩,
      ⟨?_, hblanks, ?_, by simp, by simp, hdigits _, hrest⟩, Nat.toDigits_ne_nil, ?_⟩
    · rw [decimal_of_neg hnonneg]
      simp
    · intro c hc
      obtain rfl : '-' = c := Option.some.inj hc
      exact hmarks '-' (.inl rfl)
    · rw [Opening.number_eq, hvalue]
      simp
      omega

end Decimal

theorem Opening.reading_of_number {opening : Opening} {n : Int32} (hdigits : opening.digits ≠ [])
    (hnumber : opening.number = n.toInt) : opening.reading = n.toInt := by
  have hlower := n.le_toInt
  have hupper := n.toInt_lt
  rw [reading, hnumber, if_pos ⟨hdigits, by omega, by omega⟩]

/-- An integer is read back from its decimal text, whatever blanks of ASCII stand before it and
whatever follows that is no digit. -/
theorem read_decimal_among (n : Int32) {blanks rest : List Char}
    (hblanks : ∀ c ∈ blanks, isAsciiBlank c) (hrest : ∀ c ∈ rest.head?, ¬ c.isDigit) :
    read (blanks ++ decimal n ++ rest) = n ∧ readAscii (blanks ++ decimal n ++ rest) = n := by
  have hspaces : ∀ c ∈ blanks, Unicode.isWhiteSpace c := by
    intro c hc
    rw [isWhiteSpace_iff_of_ascii (isAscii_of_isAsciiBlank (hblanks c hc))]
    exact hblanks c hc
  have hmarks : ∀ c, c = '-' ∨ c.isDigit → ¬ Unicode.isWhiteSpace c := by
    rintro c (rfl | hdigit)
    · decide
    · simp [not_isWhiteSpace_of_isDigit hdigit]
  have hmarksAscii : ∀ c, c = '-' ∨ c.isDigit → ¬ isAsciiBlank c := by
    intro c hc hblank
    apply hmarks c hc
    rw [isWhiteSpace_iff_of_ascii (isAscii_of_isAsciiBlank hblank)]
    exact hblank
  constructor
  · obtain ⟨opening, hopens, hdigits, hnumber⟩ :=
      exists_opening_decimal hspaces hmarks hrest n
    rw [← Int32.toInt_inj, hopens.toInt_read, Opening.reading_of_number hdigits hnumber]
  · obtain ⟨opening, hopens, hdigits, hnumber⟩ :=
      exists_opening_decimal hblanks hmarksAscii hrest n
    rw [← Int32.toInt_inj, hopens.toInt_readAscii, Opening.reading_of_number hdigits hnumber]

/-! ## All texts -/

/-- The one way to take a text apart gives what is read from it. -/
def ReadsOpenings (isBlank : Char → Bool) (read : List Char → Int32) : Prop :=
  ∀ text, ∃ opening : Opening, opening.Opens isBlank text ∧
    (∀ other : Opening, other.Opens isBlank text → other = opening) ∧
    (read text).toInt = opening.reading

/-- Both ways to read an integer give the number at the start of the text, or zero if there is none
or 32 bits do not suffice for it. They differ in what they take for blanks, and so on just those
texts whose blanks are not all ASCII, where one of them gives zero. No digit takes the sum in 64
bits past what they hold, and an integer that is written in decimal is read back. -/
theorem integers_read_exactly :
    ReadsOpenings Unicode.isWhiteSpace read ∧ ReadsOpenings isAsciiBlank readAscii ∧
      (∀ text, AsciiBlanks text → readAscii text = read text) ∧
      (∀ text, ¬ AsciiBlanks text → readAscii text = 0) ∧
      (∀ negative text sum c rest,
        Relation.ReflTransGen (TakesDigit (magnitudeLimit negative)) (0, text) (sum, c :: rest) →
        c.isDigit →
          accumulate (magnitudeLimit negative) 0 text =
            accumulate (magnitudeLimit negative) sum (c :: rest) ∧
          (sum * 10).toInt = sum.toInt * 10 ∧
          (sum * 10 + .ofNat (digit c)).toInt = sum.toInt * 10 + digit c) ∧
      (∀ negative text sum, accumulate (magnitudeLimit negative) 0 text = some sum →
        (if negative then -sum else sum).toInt32.toInt =
          if negative then -sum.toInt else sum.toInt) ∧
      ∀ n blanks rest, (∀ c ∈ blanks, isAsciiBlank c) → (∀ c ∈ rest.head?, ¬ c.isDigit) →
        read (blanks ++ decimal n ++ rest) = n ∧ readAscii (blanks ++ decimal n ++ rest) = n := by
  refine ⟨?_, ?_, ?_, ?_, ?_, ?_, ?_⟩
  · intro text
    obtain ⟨opening, hopens⟩ := exists_opening Unicode.isWhiteSpace text
    exact ⟨opening, hopens, fun _ => hopens.unique, hopens.toInt_read⟩
  · intro text
    obtain ⟨opening, hopens⟩ := exists_opening isAsciiBlank text
    exact ⟨opening, hopens, fun _ => hopens.unique, hopens.toInt_readAscii⟩
  · exact fun text hblanks => (read_eq_readAscii hblanks).symm
  · exact fun text hblanks => readAscii_of_not_asciiBlanks hblanks
  · intro negative text sum c rest hsteps hdigit
    obtain ⟨hwithin, haccumulate⟩ := withinLimit_of_takesDigits hsteps
    exact ⟨haccumulate, hwithin.toInt_next hdigit⟩
  · intro negative text sum haccumulate
    obtain ⟨rest, hsteps⟩ := exists_takesDigits haccumulate
    exact (withinLimit_of_takesDigits hsteps).1.toInt_toInt32
  · exact fun n blanks rest hblanks hrest => read_decimal_among n hblanks hrest

/-- The least number that 32 bits hold is read, also digit by digit, and the one below it is not. A
blank that one way does not know makes it read zero. -/
theorem integers_read_exactly_limits :
    AsciiBlanks "\t -2147483649".toList ∧
      readAscii "\t -2147483649".toList = read "\t -2147483649".toList ∧
      ¬ AsciiBlanks "\u2003 7".toList ∧ readAscii "\u2003 7".toList = 0 ∧
      (4 * 10 + .ofNat (digit '8') : Int64).toInt = 4 * 10 + digit '8' ∧
      accumulate (magnitudeLimit true) 0 "2147483648".toList = some 2147483648 ∧
      (-2147483648 : Int64).toInt32.toInt = -2147483648 ∧
      read ("\t ".toList ++ decimal (-2147483648) ++ "x".toList) = -2147483648 := by
  obtain ⟨-, -, hagree, hzero, hsums, hnarrow, hdecimal⟩ := integers_read_exactly
  have hblanks : AsciiBlanks "\t -2147483649".toList := by decide
  have hnotBlanks : ¬ AsciiBlanks "\u2003 7".toList := by decide
  have hsteps : Relation.ReflTransGen (TakesDigit (magnitudeLimit true)) (0, "48".toList)
      (4, "8".toList) := .single (.digit (by decide) (by decide))
  have hlast : accumulate (magnitudeLimit true) 0 "2147483648".toList = some 2147483648 := by
    decide
  have hread := hdecimal (-2147483648) "\t ".toList "x".toList (List.all_eq_true.1 (by decide))
    fun c hc => by
      obtain rfl : 'x' = c := Option.some.inj hc
      decide
  exact ⟨hblanks, hagree _ hblanks, hnotBlanks, hzero _ hnotBlanks,
    (hsums true _ _ _ _ hsteps (by decide)).2.2, hlast,
    hnarrow true _ _ hlast, hread.1⟩

end TableSchema.Integer
