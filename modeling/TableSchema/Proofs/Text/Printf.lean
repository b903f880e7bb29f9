import TableSchema.Proofs.Text.Integers
import TableSchema.Proofs.Text.Utf8
import TableSchema.Text.Printf

/-!
# What formats write

A format and its values write a text if its bytes are put in front of what follows, whatever follows
the format and the values. So what a format writes is put together from what its parts write.
-/

namespace TableSchema.Printf

open Bytes (encode)

/-- A format and its values stand for a text, which has no NUL character. -/
structure Writes (format : String) (arguments : List Argument) (text : String) : Prop where
  expand_eq : ∀ rest more, expand (format.toList ++ rest) (arguments ++ more) =
    encode text.toList ++ expand rest more
  noNul : '\x00' ∉ text.toList

/-! ## Parts of formats -/

theorem Writes.append {format other text more : String} {arguments others : List Argument}
    (hformat : Writes format arguments text) (hother : Writes other others more) :
    Writes (format ++ other) (arguments ++ others) (text ++ more) where
  expand_eq rest arguments := by
    rw [String.toList_append, List.append_assoc, List.append_assoc, hformat.expand_eq,
      hother.expand_eq, String.toList_append, Bytes.encode_append, List.append_assoc]
  noNul := by
    rw [String.toList_append, List.mem_append, not_or]
    exact ⟨hformat.noNul, hother.noNul⟩

theorem expand_cons_of_ne {c : Char} (hc : c ≠ '%') (rest : List Char)
    (arguments : List Argument) :
    expand (c :: rest) arguments = String.utf8EncodeChar c ++ expand rest arguments := by
  rw [expand]
  · exact fun _ _ _ _ h => absurd h hc
  · exact fun _ _ _ _ h => absurd h hc
  · exact fun _ _ _ _ h => absurd h hc

/-- A text without directives stands for itself. -/
theorem writes_plain (text : String) (hpercent : '%' ∉ text.toList)
    (hnul : '\x00' ∉ text.toList) :
    Writes text [] text := by
  refine ⟨fun rest more => ?_, hnul⟩
  rw [List.nil_append]
  generalize text.toList = cs at hpercent
  induction cs with
  | nil => rfl
  | cons c cs ih =>
      rw [List.mem_cons, not_or] at hpercent
      rw [List.cons_append, expand_cons_of_ne (Ne.symm hpercent.1), ih hpercent.2,
        Bytes.encode_cons, List.append_assoc]

theorem writes_size (n : Nat) : Writes "%zd" [.size n] (toString n) := by
  refine ⟨fun _ _ => rfl, fun hnul => ?_⟩
  have hdigits : '\x00' ∈ Nat.toDigits 10 n := Nat.toList_repr ▸ hnul
  exact absurd (Nat.isDigit_of_mem_toDigits (by decide) (by decide) hdigits) (by decide)

theorem writes_integer (n : Int32) : Writes "%d" [.integer n] (toString n.toInt) := by
  refine ⟨fun _ _ => rfl, fun hnul => ?_⟩
  rcases Integer.mem_decimal hnul with hsign | hdigit
  · exact absurd hsign (by decide)
  · exact absurd hdigit (by decide)

theorem writes_text (s : String) :
    Writes "%s" [.text (encode s.toList)] (String.ofList (s.toList.takeWhile (· ≠ '\x00'))) := by
  refine ⟨fun rest more => ?_, ?_⟩
  · have hshown : beforeNul (encode s.toList) = encode (s.toList.takeWhile (· ≠ '\x00')) :=
      Bytes.takeWhile_encode s.toList
    simp only [String.toList_ofList, ← hshown]
    rfl
  · rw [String.toList_ofList]
    intro hnul
    simpa using List.mem_takeWhile_imp hnul

/-! ## Messages -/

/-- A message is the first bytes of the text for which its format stands, or nothing if these are
too many to be counted. -/
theorem error_eq_of_writes {format text : String} {arguments : List Argument}
    (hwrites : Writes format arguments text) :
    error format arguments =
      if (encode text.toList).length ≤ countLimit then (encode text.toList).take 1023 else [] := by
  have hmessage : expand format.toList arguments = encode text.toList := by
    simpa [expand] using hwrites.expand_eq [] []
  have hbytes : ∀ b ∈ (encode text.toList).take 1023, decide (b ≠ 0) = true := fun b hmem =>
    decide_eq_true fun hb =>
      hwrites.noNul (Bytes.zero_mem_encode_iff.1 (hb ▸ List.mem_of_mem_take hmem))
  rw [error, writeInto, hmessage]
  by_cases hcounts : (encode text.toList).length ≤ countLimit
  · have hcount : ¬ ((encode text.toList).length : Int) < 0 := by omega
    rw [if_pos hcounts, if_pos hcounts]
    dsimp only
    rw [if_neg hcount, beforeNul, List.takeWhile_append_of_pos hbytes]
    simp
  · rw [if_neg hcounts, if_neg hcounts]
    rfl

end TableSchema.Printf
