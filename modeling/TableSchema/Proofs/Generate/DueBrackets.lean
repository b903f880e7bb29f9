import TableSchema.Proofs.Generate.Printable
import TableSchema.Proofs.Text.Brackets

/-!
# Brackets of generated lines

What generated lines make of the closing brackets that are due is put together from what their
pieces make of them. Words and line feeds do not count, and neither does indentation.
-/

namespace TableSchema.Generate

/-- The closing brackets that are due after a text, by those due before it. -/
def due (text : String) : List Char → Option (List Char) :=
  dueAfter text.toList

theorem bracketed_toList_iff {text : String} : Bracketed text.toList ↔ due text = pure :=
  bracketed_iff_dueAfter_eq

/-! ## Pieces of lines -/

/-- Of a piece that is written out in the generator only the brackets count. -/
theorem due_ofList (cs : List Char) : due (String.ofList cs) = dueAfter (cs.filter isBracket) := by
  rw [due, String.toList_ofList, dueAfter_filter]

theorem due_literal {cs : List Char} (hcs : Bracketed (cs.filter isBracket)) :
    due (String.ofList cs) = pure :=
  (due_ofList cs).trans hcs.dueAfter_eq

theorem due_empty : due "" = pure := rfl

theorem due_append (first second : String) : due (first ++ second) = due first >=> due second := by
  rw [due, String.toList_append, dueAfter_append]
  rfl

theorem isBracket_of_isIdentifierPart {c : Char} (hpart : isIdentifierPart c) :
    isBracket c = false :=
  forall_isIdentifierPart (P := (isBracket · = false)) (by decide) hpart

theorem due_word {word : String} (hword : IsWord word) : due word = pure :=
  dueAfter_eq_pure_of_forall fun c hmem => isBracket_of_isIdentifierPart (hword c hmem)

theorem due_repr (n : Nat) : due n.repr = pure :=
  due_word (isWord_toString n)

theorem due_joined {cs : List Char} (hcs : cs.any isBracket = false) {parts : List String}
    (hparts : ∀ part ∈ parts, IsWord part) : due (joined (String.ofList cs) parts) = pure := by
  have hseparator : ∀ c ∈ (String.ofList cs).toList, isBracket c = false := by
    rw [String.toList_ofList]
    exact fun c hmem => Bool.eq_false_iff.2 (List.any_eq_false.1 hcs c hmem)
  exact dueAfter_eq_pure_of_forall <| forall_mem_joined hseparator fun part hmem c hc =>
    isBracket_of_isIdentifierPart (hparts part hmem c hc)

/-! ## Lines -/

variable {line head tail : String} {lines others body otherwise : Lines}

theorem due_text_nil : due (text []) = pure := rfl

theorem due_text_cons : due (text (line :: lines)) = due line >=> due (text lines) := by
  rw [text_cons, due_append, due_append, due_literal (by decide), fish_pure]

theorem due_text_append :
    due (text (lines ++ others)) = due (text lines) >=> due (text others) := by
  induction lines with
  | nil => rfl
  | cons line lines ih => rw [List.cons_append, due_text_cons, due_text_cons, ih, fish_assoc]

theorem due_indentLine : due (indentLine line) = due line := by
  unfold indentLine
  split
  · rfl
  · rw [due_append, due_literal (by decide), fish_pipe]

theorem due_text_indent : due (text (indent lines)) = due (text lines) := by
  induction lines with
  | nil => rfl
  | cons line lines ih =>
      rw [indent, List.map_cons, due_text_cons, due_text_cons, due_indentLine]
      exact congrArg (due line >=> ·) ih

theorem due_text_singleton : due (text [line]) = due line := by
  rw [due_text_cons, due_text_nil, fish_pure]

theorem due_text_blockWith : due (text (blockWith tail head body)) =
    due head >=> dueAfter ['{'] >=> due (text body) >=> dueAfter ['}'] >=> due tail := by
  have hopens : due " \x7b" = dueAfter ['{'] := due_ofList [' ', '{']
  have hcloses : due "\x7d" = dueAfter ['}'] := due_ofList ['}']
  simp only [blockWith, due_text_append, due_text_singleton, due_append, due_text_indent, hopens,
    hcloses, fish_assoc]

theorem due_text_block : due (text (block head body)) =
    due head >=> dueAfter ['{'] >=> due (text body) >=> dueAfter ['}'] := by
  rw [block, due_text_blockWith, due_empty, fish_pure]

theorem due_text_blockElse : due (text (blockElse head body otherwise)) =
    due head >=> dueAfter ['{'] >=> due (text body) >=> dueAfter ['}'] >=>
      dueAfter ['{'] >=> due (text otherwise) >=> dueAfter ['}'] := by
  have hopens : due " \x7b" = dueAfter ['{'] := due_ofList [' ', '{']
  have helse : due "\x7d else \x7b" = dueAfter (['}'] ++ ['{']) :=
    due_ofList ['}', ' ', 'e', 'l', 's', 'e', ' ', '{']
  have hcloses : due "\x7d" = dueAfter ['}'] := due_ofList ['}']
  simp only [blockElse, due_text_append, due_text_singleton, due_append, due_text_indent, hopens,
    helse, hcloses, dueAfter_append, fish_assoc]

theorem dueAfter_braces : dueAfter ['{'] >=> dueAfter ['}'] = pure := by
  rw [← dueAfter_append]
  exact Bracketed.dueAfter_eq (by decide)

theorem due_text_of_forall (hlines : ∀ line ∈ lines, due line = pure) :
    due (text lines) = pure := by
  induction lines with
  | nil => rfl
  | cons line lines ih =>
      obtain ⟨hline, hlines⟩ := List.forall_mem_cons.1 hlines
      rw [due_text_cons, hline, ih hlines, fish_pure]

theorem due_text_flatMap {α : Type} {entries : List α} {f : α → Lines}
    (hentries : ∀ entry ∈ entries, due (text (f entry)) = pure) :
    due (text (entries.flatMap f)) = pure := by
  induction entries with
  | nil => rfl
  | cons entry entries ih =>
      obtain ⟨hentry, hentries⟩ := List.forall_mem_cons.1 hentries
      rw [List.flatMap_cons, due_text_append, hentry, ih hentries, fish_pure]

theorem due_text_linesIf {condition : Bool} (hlines : due (text lines) = pure) :
    due (text (linesIf condition lines)) = pure := by
  cases condition with
  | false => rfl
  | true => exact hlines

/-- The empty lines between groups do not count. -/
theorem due_text_spaced (groups : List Lines) :
    due (text (spaced groups)) = due (text groups.flatten) := by
  induction groups with
  | nil => rfl
  | cons group groups ih =>
      cases groups with
      | nil => rw [spaced, List.flatten_singleton]
      | cons next groups =>
          rw [List.flatten_cons, due_text_append, ← ih,
            spaced.eq_3 group _ (List.cons_ne_nil next groups), due_text_append, due_text_append,
            due_text_singleton, due_empty, fish_pure]

end TableSchema.Generate
