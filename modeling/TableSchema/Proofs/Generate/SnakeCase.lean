import Mathlib.Data.List.Chain
import TableSchema.Proofs.Generate.FileNames

/-!
# Lower snake case of identifiers

An identifier in lower snake case is its characters written small, with an underscore before every
capital that follows a small letter or a digit. Matches are replaced from the left and share no
characters, but none is missed for that: the capital that ends a match starts none.
-/

namespace TableSchema

/-! ## Letters -/

theorem isIdentifierPart_of_isUpper {c : Char} (hupper : c.isUpper) : isIdentifierPart c := by
  have halpha : c.isAlpha := Bool.or_eq_true_iff.2 (.inl hupper)
  simp [isIdentifierPart, Char.isAlphanum, halpha]

theorem isSmallOrDigit_of_isUpper {c : Char} (hupper : c.isUpper) :
    (c.isLower || c.isDigit) = false :=
  forall_isIdentifierPart (P := fun c => c.isUpper → (c.isLower || c.isDigit) = false) (by decide)
    (isIdentifierPart_of_isUpper hupper) hupper

theorem toLower_of_isUpper_eq_false {c : Char} (hsmall : c.isUpper = false) : c.toLower = c :=
  dif_neg (of_decide_eq_false hsmall)

section Parts

variable {c : Char} (hpart : isIdentifierPart c)
include hpart

theorem isUpper_toLower : c.toLower.isUpper = false :=
  forall_isIdentifierPart (P := fun c => c.toLower.isUpper = false) (by decide) hpart

theorem toLower_toLower : c.toLower.toLower = c.toLower :=
  toLower_of_isUpper_eq_false (isUpper_toLower hpart)

theorem toLower_eq_underscore_iff : c.toLower = '_' ↔ c = '_' :=
  forall_isIdentifierPart (P := fun c => c.toLower = '_' ↔ c = '_') (by decide) hpart

theorem isIdentifierStart_toLower (hstart : isIdentifierStart c) : isIdentifierStart c.toLower :=
  forall_isIdentifierPart (P := fun c => isIdentifierStart c → isIdentifierStart c.toLower)
    (by decide) hpart hstart

end Parts

/-! ## Replacing matches -/

/-- No two neighbours are a match. -/
def Unbroken (cs : List Char) : Prop :=
  cs.IsChain fun left right => isWordBoundary left right = false

/-- The matches of a text are marked: the leftmost one, then those of the text that follows it. -/
inductive MarksMatches : List Char → List Char → Prop
  | none {cs : List Char} (hunbroken : Unbroken cs) : MarksMatches cs cs
  | leftmost {before after marked : List Char} {left right : Char}
      (hmatch : isWordBoundary left right = true) (hbefore : Unbroken (before ++ [left]))
      (hafter : MarksMatches after marked) :
      MarksMatches (before ++ left :: right :: after) (before ++ left :: '_' :: right :: marked)

theorem MarksMatches.cons {c d : Char} {rest marked : List Char}
    (hmarks : MarksMatches (d :: rest) marked) (hbetween : isWordBoundary c d = false) :
    MarksMatches (c :: d :: rest) (c :: marked) := by
  generalize hcs : d :: rest = cs at hmarks ⊢
  cases hmarks with
  | none hunbroken =>
      subst hcs
      exact .none (List.isChain_cons_cons.2 ⟨hbetween, hunbroken⟩)
  | @leftmost before after marked left right hmatch hbefore hafter =>
      rw [← List.cons_append, ← List.cons_append]
      refine .leftmost hmatch ?_ hafter
      cases before with
      | nil =>
          obtain ⟨rfl, -⟩ := List.cons.inj hcs
          exact List.isChain_cons_cons.2 ⟨hbetween, List.isChain_singleton _⟩
      | cons first before =>
          obtain ⟨rfl, -⟩ := List.cons.inj hcs
          exact List.isChain_cons_cons.2 ⟨hbetween, hbefore⟩

theorem marksMatches_markWords (cs : List Char) : MarksMatches cs (markWords cs) := by
  fun_induction markWords cs with
  | case1 => exact .none List.isChain_nil
  | case2 c => exact .none (List.isChain_singleton c)
  | case3 left right rest hmatch ih =>
      exact @MarksMatches.leftmost [] rest (markWords rest) left right hmatch
        (List.isChain_singleton left) ih
  | case4 left right rest hbetween ih => exact ih.cons (Bool.not_eq_true _ ▸ hbetween)

theorem markWords_cons_of_not {c d : Char} {rest : List Char}
    (hbetween : isWordBoundary c d = false) :
    markWords (c :: d :: rest) = c :: markWords (d :: rest) := by
  rw [markWords, hbetween, if_neg Bool.false_ne_true]

theorem markWords_of_unbroken {cs : List Char} (hunbroken : Unbroken cs) : markWords cs = cs := by
  induction cs with
  | nil => rfl
  | cons c cs ih =>
      cases cs with
      | nil => rfl
      | cons d rest =>
          obtain ⟨hbetween, hrest⟩ := List.isChain_cons_cons.1 hunbroken
          rw [markWords_cons_of_not hbetween, ih hrest]

theorem markWords_leftmost {before after : List Char} {left right : Char}
    (hmatch : isWordBoundary left right = true) (hbefore : Unbroken (before ++ [left])) :
    markWords (before ++ left :: right :: after) =
      before ++ left :: '_' :: right :: markWords after := by
  induction before with
  | nil => exact if_pos hmatch
  | cons c before ih =>
      have hrest := ih hbefore.tail
      -- Behind `c` stands the next character before the match, or the one that starts it.
      cases before with
      | nil =>
          have hbetween := (List.isChain_cons_cons.1 hbefore).1
          exact (markWords_cons_of_not hbetween).trans (congrArg (c :: ·) hrest)
      | cons d before =>
          have hbetween := (List.isChain_cons_cons.1 hbefore).1
          exact (markWords_cons_of_not hbetween).trans (congrArg (c :: ·) hrest)

/-- There is one way to mark the matches of a text. -/
theorem marksMatches_iff {cs marked : List Char} :
    MarksMatches cs marked ↔ marked = markWords cs := by
  constructor
  · intro hmarks
    induction hmarks with
    | none hunbroken => exact (markWords_of_unbroken hunbroken).symm
    | leftmost hmatch hbefore _ ih => rw [markWords_leftmost hmatch hbefore, ih]
  · rintro rfl
    exact marksMatches_markWords cs

/-! ## Writing small by words -/

/-- What is written for a character that follows another one or starts the name. -/
def wordPiece (before : Option Char) (c : Char) : List Char :=
  if c.isUpper && before.any fun b => b.isLower || b.isDigit then ['_', c.toLower] else [c.toLower]

/-- A name written small, with an underscore before every capital whose preceding character is a
small letter or a digit. -/
def lowerWords (name : List Char) : List Char :=
  (List.zipWith wordPiece (none :: name.map some) name).flatten

theorem wordPiece_of_not {before : Option Char} {c : Char}
    (hbefore : ∀ b ∈ before, isWordBoundary b c = false) : wordPiece before c = [c.toLower] := by
  unfold wordPiece
  cases before with
  | none => simp
  | some b =>
      have hnot := hbefore b rfl
      rw [isWordBoundary, Bool.and_comm] at hnot
      rw [Option.any_some, hnot, if_neg Bool.false_ne_true]

theorem wordPiece_of_boundary {left right : Char} (hmatch : isWordBoundary left right = true) :
    wordPiece (some left) right = ['_', right.toLower] := by
  rw [isWordBoundary, Bool.and_comm] at hmatch
  rw [wordPiece, Option.any_some, if_pos hmatch]

/-- The second character of a match does not start one. -/
theorem isWordBoundary_of_boundary {left right next : Char}
    (hmatch : isWordBoundary left right = true) : isWordBoundary right next = false := by
  have hupper : right.isUpper := (Bool.and_eq_true_iff.1 hmatch).2
  rw [isWordBoundary, isSmallOrDigit_of_isUpper hupper, Bool.false_and]

/-- Marking matches and writing small is writing small by words, after a character that is not at a
boundary with the first one. -/
theorem map_toLower_markWords {before : Option Char} {cs : List Char}
    (hbefore : ∀ b ∈ before, ∀ c ∈ cs.head?, isWordBoundary b c = false) :
    (markWords cs).map Char.toLower =
      (List.zipWith wordPiece (before :: cs.map some) cs).flatten := by
  fun_induction markWords cs generalizing before with
  | case1 => rfl
  | case2 c =>
      have hfirst := wordPiece_of_not fun b hb => hbefore b hb c rfl
      simp [hfirst]
  | case3 left right rest hmatch ih =>
      have hfirst := wordPiece_of_not fun b hb => hbefore b hb left rfl
      have hnext : ∀ b ∈ some right, ∀ c ∈ rest.head?, isWordBoundary b c = false := by
        rintro _ ⟨⟩ next -
        exact isWordBoundary_of_boundary hmatch
      simpa [hfirst, wordPiece_of_boundary hmatch] using ih hnext
  | case4 left right rest hbetween ih =>
      have hfirst := wordPiece_of_not fun b hb => hbefore b hb left rfl
      have hnext : ∀ b ∈ some left, ∀ c ∈ (right :: rest).head?, isWordBoundary b c = false := by
        rintro _ ⟨⟩ _ ⟨⟩
        exact Bool.not_eq_true _ ▸ hbetween
      simpa [hfirst] using ih hnext

/-! ## Identifiers -/

section Identifiers

open Generate

variable {name : String}

theorem isUpper_of_mem_snakeCase (hname : IsWord name) :
    ∀ c ∈ (snakeCase name).toList, c.isUpper = false := by
  rw [toList_snakeCase hname, List.forall_mem_map]
  exact fun c hmem => isUpper_toLower (isIdentifierPart_of_mem_markWords hname c hmem)

theorem unbroken_of_no_capitals {cs : List Char} (hsmall : ∀ c ∈ cs, c.isUpper = false) :
    Unbroken cs := by
  refine List.Pairwise.isChain (List.pairwise_of_forall_mem_list fun left _ right hmem => ?_)
  rw [isWordBoundary, hsmall right hmem, Bool.and_false]

/-- The image of a word is its own image. -/
theorem snakeCase_snakeCase (hname : IsWord name) :
    snakeCase (snakeCase name) = snakeCase name := by
  have hsmall := isUpper_of_mem_snakeCase hname
  rw [← String.toList_inj, toList_snakeCase (isWord_snakeCase hname),
    markWords_of_unbroken (unbroken_of_no_capitals hsmall)]
  refine (List.map_congr_left fun c hmem => ?_).trans (List.map_id _)
  exact toLower_of_isUpper_eq_false (hsmall c hmem)

/-- The first character of a name has no mark before it. -/
theorem head?_markWords (cs : List Char) : (markWords cs).head? = cs.head? := by
  fun_cases markWords cs <;> rfl

/-- A word whose first character may start an identifier is one. -/
theorem identifier_iff : Identifier name ↔
    (∃ c ∈ name.toList.head?, isIdentifierStart c = true) ∧ IsWord name := by
  constructor
  · intro hname
    refine ⟨?_, isWord_of_identifier hname⟩
    unfold Identifier isIdentifier at hname
    cases hchars : name.toList with
    | nil => simp [hchars] at hname
    | cons first rest =>
        rw [hchars, Bool.and_eq_true] at hname
        exact ⟨first, rfl, hname.1⟩
  · rintro ⟨⟨first, hhead, hstart⟩, hword⟩
    obtain ⟨rest, hchars⟩ := List.head?_eq_some_iff.1 hhead
    unfold Identifier isIdentifier
    rw [IsWord, hchars, List.forall_mem_cons] at hword
    rw [hchars]
    exact Bool.and_eq_true_iff.2 ⟨hstart, List.all_eq_true.2 hword.2⟩

theorem identifier_snakeCase (hname : Identifier name) : Identifier (snakeCase name) := by
  obtain ⟨⟨first, hhead, hstart⟩, hword⟩ := identifier_iff.1 hname
  have hpart : isIdentifierPart first := hword first (List.mem_of_mem_head? hhead)
  refine identifier_iff.2 ⟨⟨first.toLower, ?_, isIdentifierStart_toLower hpart hstart⟩,
    isWord_snakeCase hword⟩
  rw [toList_snakeCase hword, List.head?_map, head?_markWords, hhead]
  rfl

theorem filter_markWords (cs : List Char) :
    (markWords cs).filter (· ≠ '_') = cs.filter (· ≠ '_') := by
  fun_induction markWords cs with
  | case1 => rfl
  | case2 => rfl
  | case3 left right rest hmatch ih =>
      have hmark : ¬ decide ('_' ≠ '_') = true := by decide
      simp only [List.filter_cons, if_neg hmark, ih]
  | case4 left right rest hbetween ih => simp only [List.filter_cons, ih]

/-- The letters and digits of a name, their case aside. -/
def foldedName (name : String) : List Char :=
  (name.toList.filter (· ≠ '_')).map Char.toLower

theorem foldedName_snakeCase (hname : IsWord name) :
    foldedName (snakeCase name) = foldedName name := by
  have hparts := isIdentifierPart_of_mem_markWords hname
  have hunderscore : ∀ c ∈ markWords name.toList,
      ((decide <| · ≠ '_') ∘ Char.toLower) c = (decide <| c ≠ '_') := fun c hmem =>
    decide_eq_decide.2 (not_congr (toLower_eq_underscore_iff (hparts c hmem)))
  rw [foldedName, toList_snakeCase hname, List.filter_map, List.filter_congr hunderscore,
    List.map_map, foldedName, ← filter_markWords name.toList]
  refine List.map_congr_left fun c hmem => ?_
  exact toLower_toLower (hparts c (List.mem_of_mem_filter hmem))

/-- Lower snake case marks the matches of an identifier one after the other, and still writes it
small by its words. What it gives is an identifier without capitals, in which it changes nothing,
and identifiers for which it gives the same differ only in case and underscores. -/
theorem snakeCase_of_identifier (hname : Identifier name) :
    (∀ marked, MarksMatches name.toList marked ↔ marked = markWords name.toList) ∧
    (snakeCase name).toList = lowerWords name.toList ∧
    Identifier (snakeCase name) ∧ (∀ c ∈ (snakeCase name).toList, c.isUpper = false) ∧
    snakeCase (snakeCase name) = snakeCase name ∧
    ∀ other, Identifier other → snakeCase other = snakeCase name →
      foldedName other = foldedName name := by
  have hword := isWord_of_identifier hname
  refine ⟨fun _ => marksMatches_iff, ?_, identifier_snakeCase hname,
    isUpper_of_mem_snakeCase hword, snakeCase_snakeCase hword, fun other hother hsame => ?_⟩
  · rw [toList_snakeCase hword, lowerWords]
    exact map_toLower_markWords (by simp)
  · rw [← foldedName_snakeCase (isWord_of_identifier hother), hsame, foldedName_snakeCase hword]

/-- Neighbouring matches are all marked, and a name written otherwise has the same image. -/
theorem snakeCase_of_identifier_a1B2C :
    Identifier "a1B2C" ∧ MarksMatches "a1B2C".toList "a1_B2_C".toList ∧
      snakeCase "a1B2C" = "a1_b2_c" ∧ lowerWords "a1B2C".toList = "a1_b2_c".toList ∧
      Identifier "a1_b2_c" ∧ snakeCase "a1_b2_c" = "a1_b2_c" ∧
      Identifier "A1_b2C" ∧ snakeCase "A1_b2C" = "a1_b2_c" ∧
      foldedName "A1_b2C" = foldedName "a1B2C" := by
  have hname : Identifier "a1B2C" := by decide
  have hother : Identifier "A1_b2C" := by decide
  have himage : snakeCase "a1B2C" = "a1_b2_c" := by decide
  have hotherImage : snakeCase "A1_b2C" = "a1_b2_c" := by decide
  obtain ⟨hmarks, hwords, hidentifier, -, hagain, hothers⟩ := snakeCase_of_identifier hname
  rw [himage] at hwords hidentifier hagain hothers
  exact ⟨hname, (hmarks _).2 (by decide), himage, hwords.symm, hidentifier, hagain, hother,
    hotherImage, hothers _ hother hotherImage⟩

end Identifiers

end TableSchema
