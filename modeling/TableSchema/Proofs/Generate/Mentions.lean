import Mathlib.Data.List.Infix
import TableSchema.Generate.Lines

/-!
# Texts in generated lines

Whether generated code does something is told by a text that stands somewhere in one of its lines.
-/

namespace TableSchema.Generate

/-- A text stands somewhere in a line. -/
def Mentions (part line : String) : Prop :=
  part.toList <:+: line.toList

instance (part line : String) : Decidable (Mentions part line) :=
  inferInstanceAs (Decidable (part.toList <:+: line.toList))

variable {part line : String}

/-- Texts that are written out in the generator. -/
theorem mentions_ofList {ps cs : List Char} (hwithin : ps <:+: cs) :
    Mentions (String.ofList ps) (String.ofList cs) := by
  rw [Mentions, String.toList_ofList, String.toList_ofList]
  exact hwithin

theorem not_mentions_ofList {ps cs : List Char} (hwithin : ¬ ps <:+: cs) :
    ¬ Mentions (String.ofList ps) (String.ofList cs) := by
  rw [Mentions, String.toList_ofList, String.toList_ofList]
  exact hwithin

theorem mentions_append (before part after : String) : Mentions part (before ++ part ++ after) := by
  rw [Mentions, String.toList_append, String.toList_append]
  exact List.infix_append _ _ _

/-- A text of which a character is missing does not stand in a line. -/
theorem not_mentions_of_not_mem {c : Char} (hpart : c ∈ part.toList) (hline : c ∉ line.toList) :
    ¬ Mentions part line :=
  fun hmentions => hline (hmentions.subset hpart)

/-- A text that does not start with a space does not stand in the indentation of a line. -/
theorem mentions_indentLine {c : Char} (hhead : part.toList.head? = some c) (hspace : c ≠ ' ') :
    Mentions part (indentLine line) ↔ Mentions part line := by
  obtain ⟨rest, hpart⟩ := List.head?_eq_some_iff.1 hhead
  unfold indentLine Mentions
  split
  · rfl
  · rw [String.toList_append, hpart]
    simp [List.infix_cons_iff, hspace]

/-- What ends with a character that stands only once in a list ends there. -/
theorem suffix_of_concat_infix {α : Type} {part before after : List α} {last : α}
    (hwithin : part ++ [last] <:+: before ++ last :: after) (hbefore : last ∉ before)
    (hafter : last ∉ after) : part <:+ before := by
  obtain ⟨start, rest, hsplit⟩ := hwithin
  rw [List.append_assoc, List.append_assoc, List.singleton_append, ← List.append_assoc, eq_comm,
    List.append_cons_inj_of_notMem hbefore hafter] at hsplit
  exact ⟨start, hsplit.1.symm⟩

end TableSchema.Generate
