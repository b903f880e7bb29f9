import Mathlib.Control.Basic
import Mathlib.Data.List.Basic
import TableSchema.Text.LineEnding

/-!
# Nested brackets

In a text in which brackets are nested, each is closed by one of its kind, after all that was opened
behind it. A scan that keeps the closing brackets that are due tells this: texts act on what is due,
one after the other, and those with nested brackets are the texts that leave it as it is.
-/

namespace TableSchema

/-- The bracket that closes what another opens. -/
def closing? : Char → Option Char
  | '(' => some ')'
  | '[' => some ']'
  | '{' => some '}'
  | _ => none

def isClosing (c : Char) : Bool :=
  c = ')' || c = ']' || c = '}'

def isBracket (c : Char) : Bool :=
  (closing? c).isSome || isClosing c

theorem isBracket_eq_false_iff {c : Char} :
    isBracket c = false ↔ closing? c = none ∧ isClosing c = false := by
  simp [isBracket]

/-- Texts in which all brackets are nested and closed. -/
inductive Bracketed : List Char → Prop
  | nil : Bracketed []
  | other {c : Char} {rest : List Char} (hother : isBracket c = false)
      (hrest : Bracketed rest) : Bracketed (c :: rest)
  | enclosed {left right : Char} {inner rest : List Char} (hpair : closing? left = some right)
      (hinner : Bracketed inner) (hrest : Bracketed rest) :
      Bracketed (left :: inner ++ right :: rest)

theorem Bracketed.append {first second : List Char} (hfirst : Bracketed first)
    (hsecond : Bracketed second) : Bracketed (first ++ second) := by
  induction hfirst with
  | nil => exact hsecond
  | other hother _ ih => exact .other hother ih
  | enclosed hpair hinner _ _ ih =>
      rw [List.append_assoc, List.cons_append]
      exact .enclosed hpair hinner ih

/-! ## Scanning -/

/-- The closing brackets that are due after a character, the next one first. There are none after a
closing bracket that is not the next one due. -/
def dueAfterChar (c : Char) (due : List Char) : Option (List Char) :=
  match closing? c with
  | some right => some (right :: due)
  | none =>
      if isClosing c then if due.head? = some c then some due.tail else none
      else some due

/-- The closing brackets that are due after a text, by those due before it. -/
def dueAfter : List Char → List Char → Option (List Char)
  | [] => pure
  | c :: cs => dueAfterChar c >=> dueAfter cs

theorem dueAfter_append (first second : List Char) :
    dueAfter (first ++ second) = dueAfter first >=> dueAfter second := by
  induction first with
  | nil => rfl
  | cons c first ih => rw [List.cons_append, dueAfter, dueAfter, ih, fish_assoc]

theorem dueAfterChar_opening {left right : Char} (hpair : closing? left = some right)
    (due : List Char) : dueAfterChar left due = some (right :: due) := by
  rw [dueAfterChar, hpair]

theorem dueAfterChar_closing {left right : Char} (hpair : closing? left = some right)
    (due : List Char) : dueAfterChar right (right :: due) = some due := by
  unfold closing? at hpair
  split at hpair <;> cases hpair <;> rfl

theorem dueAfterChar_other {c : Char} (hother : isBracket c = false) : dueAfterChar c = pure := by
  obtain ⟨hopens, hcloses⟩ := isBracket_eq_false_iff.1 hother
  funext due
  rw [dueAfterChar, hopens, hcloses]
  rfl

/-- Only brackets change what is due. -/
theorem dueAfter_filter (cs : List Char) : dueAfter (cs.filter isBracket) = dueAfter cs := by
  induction cs with
  | nil => rfl
  | cons c rest ih =>
      rw [List.filter_cons, dueAfter]
      split
      next => rw [dueAfter, ih]
      next hother => rw [ih, dueAfterChar_other (Bool.eq_false_iff.2 hother), fish_pipe]

theorem dueAfter_eq_pure_of_forall {cs : List Char} (hcs : ∀ c ∈ cs, isBracket c = false) :
    dueAfter cs = pure := by
  rw [← dueAfter_filter, List.filter_eq_nil_iff.2 fun c hmem => Bool.eq_false_iff.1 (hcs c hmem)]
  rfl

theorem Bracketed.dueAfter_eq {cs : List Char} (hcs : Bracketed cs) : dueAfter cs = pure := by
  induction hcs with
  | nil => rfl
  | other hother _ ih => rw [dueAfter, dueAfterChar_other hother, ih, fish_pure]
  | enclosed hpair _ _ ihInner ihRest =>
      funext due
      rw [List.cons_append, dueAfter, dueAfter_append, dueAfter, ihInner, ihRest, fish_pipe,
        fish_pure]
      show (dueAfterChar _ due >>= dueAfterChar _) = _
      rw [dueAfterChar_opening hpair]
      exact dueAfterChar_closing hpair due

/-! ## What closes what is due -/

/-- A text is what brackets enclose up to each closing bracket that is due, and what follows. -/
inductive Closes : List Char → List Char → Prop
  | done {cs : List Char} (hcs : Bracketed cs) : Closes [] cs
  | next {right : Char} {due inner rest : List Char} (hinner : Bracketed inner)
      (hrest : Closes due rest) : Closes (right :: due) (inner ++ right :: rest)

theorem Closes.prepend {due first second : List Char} (hfirst : Bracketed first)
    (hsecond : Closes due second) : Closes due (first ++ second) := by
  cases hsecond with
  | done hsecond => exact .done (hfirst.append hsecond)
  | next hinner hrest =>
      rw [← List.append_assoc]
      exact .next (hfirst.append hinner) hrest

theorem closes_of_dueAfter {cs due : List Char} (hcs : dueAfter cs due = some []) :
    Closes due cs := by
  induction cs generalizing due with
  | nil =>
      obtain rfl : due = [] := Option.some.inj hcs
      exact .done .nil
  | cons c cs ih =>
      obtain ⟨left, hchar, hscan⟩ := Option.bind_eq_some_iff.1 hcs
      have hcloses := ih hscan
      unfold dueAfterChar at hchar
      split at hchar
      next right hpair =>
        obtain rfl := Option.some.inj hchar
        cases hcloses with
        | @next _ _ inner rest hinner hrest =>
            have henclosed : Bracketed (c :: inner ++ [right]) := .enclosed hpair hinner .nil
            simpa using hrest.prepend henclosed
      next hopens =>
        split at hchar
        next hclosing =>
          obtain ⟨hhead, hleft⟩ := Option.ite_none_right_eq_some.1 hchar
          obtain rfl := Option.some.inj hleft
          obtain ⟨left, rfl⟩ := List.head?_eq_some_iff.1 hhead
          exact .next .nil hcloses
        next hclosing =>
          obtain rfl := Option.some.inj hchar
          have hother := isBracket_eq_false_iff.2 ⟨hopens, Bool.eq_false_iff.2 hclosing⟩
          exact hcloses.prepend (.other hother .nil)

/-- Brackets are nested just if nothing is due after a text before which nothing is. -/
theorem bracketed_iff {cs : List Char} : Bracketed cs ↔ dueAfter cs [] = some [] := by
  refine ⟨fun hcs => congrFun hcs.dueAfter_eq [], fun hcs => ?_⟩
  cases closes_of_dueAfter hcs with
  | done hcs => exact hcs

instance (cs : List Char) : Decidable (Bracketed cs) :=
  decidable_of_iff (dueAfter cs [] = some []) bracketed_iff.symm

example : ¬ Bracketed ['(', '[', ')', ']'] := by decide

theorem bracketed_iff_dueAfter_eq {cs : List Char} : Bracketed cs ↔ dueAfter cs = pure :=
  ⟨Bracketed.dueAfter_eq, fun hcs => bracketed_iff.2 (congrFun hcs [])⟩

/-! ## Line endings -/

theorem dueAfter_withCarriageReturns (cs : List Char) :
    dueAfter (LineEnding.withCarriageReturns cs) = dueAfter cs := by
  induction cs with
  | nil => rfl
  | cons c rest ih =>
      rw [LineEnding.withCarriageReturns, dueAfter_append, ih, dueAfter]
      split
      next hfeed =>
        subst hfeed
        rfl
      next => rw [dueAfter, dueAfter, fish_pure]

/-- Brackets are nested whatever lines end in. -/
theorem Bracketed.convert {text : String} (htext : Bracketed text.toList) (ending : LineEnding) :
    Bracketed (ending.convert text).toList := by
  cases ending with
  | unix => exact htext
  | dos =>
      rw [LineEnding.convert, String.toList_ofList, bracketed_iff_dueAfter_eq,
        dueAfter_withCarriageReturns]
      exact htext.dueAfter_eq

end TableSchema
