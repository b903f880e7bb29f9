import Mathlib.Data.List.Basic
import TableSchema.Generate.CppNames

/-!
# Every line of generated code

What holds of every line of a piece of code holds of every line of its parts, and of the lines that
open and close blocks around them.
-/

namespace TableSchema.Generate

variable {P : String → Prop} {lines body otherwise : Lines} {head tail : String}

/-- The text of lines ends each of them. -/
theorem text_cons (line : String) (lines : Lines) :
    text (line :: lines) = line ++ "\n" ++ text lines := by
  rw [← String.toList_inj]
  simp [text]

@[simp] theorem forall_mem_indent :
    (∀ line ∈ indent lines, P line) ↔ ∀ line ∈ lines, P (indentLine line) :=
  List.forall_mem_map

@[simp] theorem forall_mem_blockWith :
    (∀ line ∈ blockWith tail head body, P line) ↔
      P (head ++ " \x7b") ∧ (∀ line ∈ body, P (indentLine line)) ∧ P ("\x7d" ++ tail) := by
  rw [blockWith, List.forall_mem_append, List.forall_mem_append, List.forall_mem_singleton,
    List.forall_mem_singleton, forall_mem_indent, and_assoc]

@[simp] theorem forall_mem_block :
    (∀ line ∈ block head body, P line) ↔
      P (head ++ " \x7b") ∧ (∀ line ∈ body, P (indentLine line)) ∧ P "\x7d" :=
  forall_mem_blockWith

@[simp] theorem forall_mem_blockElse :
    (∀ line ∈ blockElse head body otherwise, P line) ↔
      (P (head ++ " \x7b") ∧ (∀ line ∈ body, P (indentLine line)) ∧ P "\x7d else \x7b") ∧
        (∀ line ∈ otherwise, P (indentLine line)) ∧ P "\x7d" := by
  simp only [blockElse, List.forall_mem_append, List.forall_mem_singleton, forall_mem_indent,
    and_assoc]

theorem mem_linesIf {condition : Bool} {line : String} :
    line ∈ linesIf condition lines ↔ condition = true ∧ line ∈ lines := by
  cases condition <;> simp [linesIf]

@[simp] theorem forall_mem_linesIf {condition : Bool} :
    (∀ line ∈ linesIf condition lines, P line) ↔ (condition = true → ∀ line ∈ lines, P line) := by
  cases condition <;> simp [linesIf]

/-- Between groups of lines stand empty ones. -/
theorem forall_mem_spaced {groups : List Lines} (hempty : P "") :
    (∀ line ∈ spaced groups, P line) ↔ ∀ group ∈ groups, ∀ line ∈ group, P line := by
  induction groups with
  | nil => simp [spaced]
  | cons group rest ih =>
      cases rest with
      | nil => simp [spaced]
      | cons next rest =>
          rw [spaced, List.forall_mem_append, List.forall_mem_append, ih, List.forall_mem_singleton,
            and_iff_left hempty, List.forall_mem_cons (a := group)]
          simp

namespace Cpp

@[simp] theorem forall_mem_function :
    (∀ line ∈ function lines body, P line) ↔
      (∀ line ∈ lines, P line) ∧ P "\x7b" ∧ (∀ line ∈ body, P (indentLine line)) ∧ P "\x7d" := by
  simp only [function, List.forall_mem_append, List.forall_mem_singleton, forall_mem_indent,
    and_assoc]

theorem forall_mem_commaEnded (hcomma : ∀ line, P (line ++ ",") ↔ P line) :
    (∀ line ∈ commaEnded lines, P line) ↔ ∀ line ∈ lines, P line := by
  induction lines with
  | nil => rfl
  | cons line rest ih =>
      cases rest with
      | nil => rfl
      | cons next rest =>
          rw [commaEnded, List.forall_mem_cons, hcomma, ih, List.forall_mem_cons (a := line)]
          simp

@[simp] theorem forall_mem_failWith :
    (∀ line ∈ failWith lines, P line) ↔
      P "*error_info = tablekit::util::error(" ∧ (∀ line ∈ lines, P (indentLine line)) ∧
        P "return false;" := by
  simp only [failWith, List.forall_mem_append, List.forall_mem_singleton, forall_mem_indent,
    and_assoc]

end Cpp

end TableSchema.Generate
