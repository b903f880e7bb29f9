import Mathlib.Data.List.Basic
import TableSchema.Proofs.Table.CellRules
import TableSchema.Proofs.Text.Utf8
import TableSchema.Table.ByteReader

/-!
# Cutting cells out of bytes

Both ways to cut a cell out of the bytes of a text give the bytes of the cell's content. A quote is
one byte that is in no other character, so it makes no difference whether quotes are looked for
among the bytes or among the characters.
-/

namespace TableSchema

open Bytes (encode size slice)

/-! ## Quotes among bytes -/

namespace Cell

theorem enclosed?_eq_some_iff {cell inner : List Char} :
    enclosed? cell = some inner ↔ cell = '"' :: (inner ++ ['"']) := by
  constructor
  · intro h
    unfold enclosed? at h
    split at h
    next rest =>
      split at h
      next hlast =>
        obtain ⟨start, rfl⟩ := List.getLast?_eq_some_iff.1 hlast
        rw [List.dropLast_concat, Option.some_inj] at h
        rw [h]
      next => cases h
    next => cases h
  · rintro rfl
    simp [enclosed?]

end Cell

namespace ByteReader

theorem encode_quote : encode ['"'] = [quote] := rfl

/-- The byte of a quote is in no other character. -/
theorem ne_quote_of_mem {c : Char} {b : UInt8} (hc : c ≠ '"')
    (hmem : b ∈ String.utf8EncodeChar c) : b ≠ quote :=
  Bytes.ne_of_mem_utf8EncodeChar (d := '"') (by decide) hc hmem

theorem mem_utf8EncodeChar_iff {c : Char} : quote ∈ String.utf8EncodeChar c ↔ c = '"' := by
  refine ⟨fun hmem => ?_, fun h => h ▸ List.mem_singleton_self quote⟩
  by_cases hc : c = '"'
  · exact hc
  · exact absurd rfl (ne_quote_of_mem hc hmem)

theorem head?_encode {text : List Char} :
    (encode text).head? = some quote ↔ text.head? = some '"' := by
  cases text with
  | nil => simp
  | cons c rest =>
      rw [Bytes.encode_cons, List.head?_append_of_ne_nil _ String.utf8EncodeChar_ne_nil,
        List.head?_cons, Option.some_inj]
      exact ⟨fun hhead => mem_utf8EncodeChar_iff.1 (List.mem_of_head? hhead), fun h => h ▸ rfl⟩

theorem getLast?_encode {text : List Char} :
    (encode text).getLast? = some quote ↔ text.getLast? = some '"' := by
  rcases List.eq_nil_or_concat text with rfl | ⟨start, c, rfl⟩
  · simp
  · rw [List.concat_eq_append]
    have hbytes : encode [c] = String.utf8EncodeChar c := List.append_nil _
    rw [Bytes.encode_append, hbytes, List.getLast?_append_of_ne_nil _ String.utf8EncodeChar_ne_nil,
      List.getLast?_concat, Option.some_inj]
    exact ⟨fun hlast => mem_utf8EncodeChar_iff.1 (List.mem_of_getLast? hlast), fun h => h ▸ rfl⟩

/-! ## Pairs of quotes -/

theorem pairQuotes_cons {b : UInt8} {rest : List UInt8}
    (hpair : b = quote → rest.head? ≠ some quote) :
    pairQuotes (b :: rest) = b :: pairQuotes rest := by
  cases rest with
  | nil => rfl
  | cons c rest =>
      have hnot : ¬(b = quote ∧ c = quote) := by
        rintro ⟨hb, rfl⟩
        exact hpair hb rfl
      simp [pairQuotes, hnot]

theorem pairQuotes_append {bytes : List UInt8} (rest : List UInt8)
    (hplain : ∀ b ∈ bytes, b ≠ quote) : pairQuotes (bytes ++ rest) = bytes ++ pairQuotes rest := by
  induction bytes with
  | nil => rfl
  | cons b bytes ih =>
      obtain ⟨hb, hbytes⟩ := List.forall_mem_cons.1 hplain
      rw [List.cons_append, pairQuotes_cons fun h => absurd h hb, ih hbytes, List.cons_append]

theorem pairQuotes_encode (cell : List Char) :
    pairQuotes (encode cell) = encode (Cell.pairQuotes cell) := by
  fun_induction Cell.pairQuotes cell with
  | case1 => rfl
  | case2 rest ih =>
      have hbytes : encode ('"' :: '"' :: rest) = quote :: quote :: encode rest := rfl
      have hcons : encode ('"' :: Cell.pairQuotes rest) =
          quote :: encode (Cell.pairQuotes rest) := rfl
      rw [hbytes, hcons, ← ih, pairQuotes, if_pos (by simp)]
  | case3 c rest hnot ih =>
      rw [Bytes.encode_cons, Bytes.encode_cons, ← ih]
      by_cases hquote : c = '"'
      · subst hquote
        refine pairQuotes_cons fun _ hhead => ?_
        obtain ⟨others, rfl⟩ := List.head?_eq_some_iff.1 (head?_encode.1 hhead)
        exact hnot others rfl rfl
      · exact pairQuotes_append _ fun b hmem => ne_quote_of_mem hquote hmem

/-! ## Cells -/

/-- Whether bytes start and end with two quotes. -/
theorem enclosed_encode_iff (cell : List Char) :
    (2 ≤ (encode cell).length ∧ (encode cell).head? = some quote ∧
      (encode cell).getLast? = some quote) ↔ (Cell.enclosed? cell).isSome := by
  rw [head?_encode, getLast?_encode]
  constructor
  · rintro ⟨hlength, hhead, hlast⟩
    obtain ⟨rest, rfl⟩ := List.head?_eq_some_iff.1 hhead
    cases rest with
    | nil => exact absurd hlength (by decide)
    | cons c rest =>
        rw [List.getLast?_cons_cons] at hlast
        simp [Cell.enclosed?, hlast]
  · intro hsome
    obtain ⟨inner, hinner⟩ := Option.isSome_iff_exists.1 hsome
    rw [Cell.enclosed?_eq_some_iff.1 hinner]
    refine ⟨?_, rfl, by rw [← List.cons_append, List.getLast?_concat]⟩
    rw [Bytes.encode_cons, Bytes.encode_append, encode_quote, List.length_append,
      List.length_append]
    exact Nat.add_le_add (Nat.le_refl 1) (Nat.le_add_left 1 _)

/-- Whether cells cut out of a text are the cells of the text, each passed through `finish`. -/
def CutsCells (cutter : CellCutter) (finish : List Char → List Char) : Prop :=
  ∀ before cell after, cutter (encode (before ++ cell ++ after)) (size before)
    (size (before ++ cell)) = .ok (encode (finish cell))

/-- What stands between the quotes of a cell can be sliced out of it. -/
theorem slice_enclosed (inner : List Char) :
    slice (encode ('"' :: (inner ++ ['"']))) 1 ((encode ('"' :: (inner ++ ['"']))).length - 1) =
      .ok (encode inner) := by
  have hstop : (encode ('"' :: (inner ++ ['"']))).length - 1 = size (['"'] ++ inner) := by
    rw [Bytes.length_encode, ← List.singleton_append, ← List.append_assoc,
      Bytes.size_append _ ['"']]
    rfl
  rw [hstop]
  exact Bytes.slice_encode ['"'] inner ['"']

theorem cutAndReplace_cutsCells : CutsCells cutAndReplace Cell.unquote := by
  intro before cell after
  have hquoted := enclosed_encode_iff cell
  unfold cutAndReplace
  rw [Bytes.slice_encode before cell after]
  simp only [bind, Except.bind, Bool.and_eq_true, decide_eq_true_eq, and_assoc, hquoted,
    Cell.unquote]
  cases henclosed : Cell.enclosed? cell with
  | none => simp [pure, Except.pure]
  | some inner =>
      rw [Cell.enclosed?_eq_some_iff.1 henclosed, slice_enclosed]
      simp [pure, Except.pure, pairQuotes_encode]

/-! ## Copying -/

theorem extract_eq_cons {bytes : List UInt8} {i limit : Nat} {b : UInt8} (hlt : i < limit)
    (hb : bytes[i]? = some b) : bytes.extract i limit = b :: bytes.extract (i + 1) limit := by
  obtain ⟨hi, rfl⟩ := List.getElem?_eq_some_iff.1 hb
  obtain ⟨n, rfl⟩ := Nat.exists_eq_add_of_lt hlt
  rw [List.extract, List.extract, List.drop_eq_getElem_cons hi,
    show i + n + 1 - i = n + 1 by omega, List.take_succ_cons, show i + n + 1 - (i + 1) = n by omega]

theorem extract_eq_nil {bytes : List UInt8} {i limit : Nat} (hle : limit ≤ i) :
    bytes.extract i limit = [] := by
  rw [List.extract, Nat.sub_eq_zero_of_le hle, List.take_zero]

/-- Copying makes pairs of quotes one. -/
theorem copyUpTo_eq_pairQuotes {limit : Nat} {bytes : List UInt8} (hlimit : limit ≤ bytes.length)
    (i : Nat) : copyUpTo limit bytes i = pairQuotes (bytes.extract i limit) := by
  fun_induction copyUpTo limit bytes i with
  | case1 i hi hnone =>
      rw [List.getElem?_eq_none_iff] at hnone
      omega
  | case2 i hi b hb hskips ih =>
      simp only [Bool.and_eq_true, decide_eq_true_eq] at hskips
      obtain ⟨⟨rfl, hnext⟩, hquote⟩ := hskips
      rw [extract_eq_cons hi hb, extract_eq_cons hnext hquote, pairQuotes, if_pos (by simp), ih]
  | case3 i hi b hb hskips ih =>
      rw [extract_eq_cons hi hb, ih, pairQuotes_cons]
      rintro rfl hhead
      -- A quote follows before the limit, so it would have been skipped.
      have hnext : i + 1 < limit := by
        by_contra hlast
        rw [extract_eq_nil (Nat.le_of_not_lt hlast)] at hhead
        cases hhead
      have hin : i + 1 < bytes.length := Nat.lt_of_lt_of_le hnext hlimit
      rw [extract_eq_cons hnext (List.getElem?_eq_getElem hin), List.head?_cons] at hhead
      exact hskips (by simp [hnext, List.getElem?_eq_getElem hin, Option.some.inj hhead])
  | case4 i hi => rw [extract_eq_nil (Nat.le_of_not_lt hi), pairQuotes]

theorem getElem?_extract {bytes : List UInt8} {start stop i : Nat} (hi : i < stop - start) :
    (bytes.extract start stop)[i]? = bytes[start + i]? := by
  rw [List.extract, List.getElem?_take_of_lt hi, List.getElem?_drop]

/-- Copying starts with a look at the ends of the cell. -/
theorem copyAndSkip_encode (before cell after : List Char) :
    copyAndSkip (encode (before ++ cell ++ after)) (size before) (size (before ++ cell)) =
      if (Cell.enclosed? cell).isSome then
        .ok (pairQuotes ((encode (before ++ cell ++ after)).extract (size before + 1)
          (size (before ++ cell) - 1)))
      else .ok (encode cell) := by
  have hcell := Bytes.extract_encode before cell after
  have hquoted := enclosed_encode_iff cell
  have hlength : size (before ++ cell) - size before = (encode cell).length := by
    rw [Bytes.size_append, Nat.add_sub_cancel_left, Bytes.length_encode]
  have hstart : size before ≤ size (before ++ cell) := by
    rw [Bytes.size_append]
    exact Nat.le_add_right _ _
  have hstop : size (before ++ cell) ≤ (encode (before ++ cell ++ after)).length := by
    rw [Bytes.length_encode, Bytes.size_append (before ++ cell)]
    exact Nat.le_add_right _ _
  generalize encode (before ++ cell ++ after) = bytes at hcell hstop ⊢
  generalize size before = start at hcell hlength hstart ⊢
  generalize size (before ++ cell) = stop at hcell hlength hstart hstop ⊢
  have hends (hlong : 2 ≤ (encode cell).length) :
      bytes[start]? = (encode cell).head? ∧ bytes[stop - 1]? = (encode cell).getLast? := by
    rw [List.head?_eq_getElem?, List.getLast?_eq_getElem?, ← hlength, ← hcell,
      getElem?_extract (by omega), getElem?_extract (by omega)]
    exact ⟨rfl, congrArg _ (by omega)⟩
  have hbounds : (start ≤ stop && stop ≤ bytes.length) = true := by simp [hstart, hstop]
  unfold copyAndSkip
  rw [if_pos hbounds, hcell, hlength, copyUpTo_eq_pairQuotes (Nat.le_trans (Nat.sub_le _ _) hstop)]
  by_cases hlong : 2 ≤ (encode cell).length
  · rw [(hends hlong).1, (hends hlong).2]
    by_cases henclosed : (Cell.enclosed? cell).isSome
    · obtain ⟨-, hhead, hlast⟩ := hquoted.2 henclosed
      have hnotShort : decide ((encode cell).length < 2) = false :=
        decide_eq_false (Nat.not_lt.2 hlong)
      rw [hnotShort, hhead, hlast, if_pos henclosed, if_neg]
      simp
    · have hnot : (encode cell).head? = some quote → (encode cell).getLast? ≠ some quote :=
        fun hhead hlast => henclosed (hquoted.1 ⟨hlong, hhead, hlast⟩)
      rw [if_neg henclosed, if_pos]
      simpa [or_iff_not_imp_left] using fun _ => hnot
  · have hnone : ¬(Cell.enclosed? cell).isSome := fun h => hlong (hquoted.2 h).1
    rw [if_neg hnone, if_pos]
    have hshort : (encode cell).length < 2 := Nat.lt_of_not_le hlong
    rw [decide_eq_true hshort, Bool.true_or, Bool.true_or]

theorem copyAndSkip_cutsCells : CutsCells copyAndSkip Cell.unquote := by
  intro before cell after
  rw [copyAndSkip_encode, Cell.unquote]
  cases henclosed : Cell.enclosed? cell with
  | none => rfl
  | some inner =>
      obtain rfl := Cell.enclosed?_eq_some_iff.1 henclosed
      have hinner := Bytes.extract_encode (before ++ ['"']) inner ('"' :: after)
      have htext : before ++ ['"'] ++ inner ++ '"' :: after =
          before ++ '"' :: (inner ++ ['"']) ++ after := by simp
      have hstart : size (before ++ ['"']) = size before + 1 := Bytes.size_append before ['"']
      have hlast : before ++ '"' :: (inner ++ ['"']) = before ++ ['"'] ++ inner ++ ['"'] := by
        simp
      have hstop :
          size (before ++ ['"'] ++ inner) = size (before ++ '"' :: (inner ++ ['"'])) - 1 := by
        rw [hlast, Bytes.size_append _ ['"']]
        rfl
      rw [htext, hstart, hstop] at hinner
      rw [hinner, pairQuotes_encode]
      rfl

end ByteReader

end TableSchema
