import Mathlib.Data.List.TakeWhile
import TableSchema.Proofs.Generate.Scopes

/-!
# Patterns of lines

Lines of generated code are told apart by the words in them and the marks between these. A pattern
is a line with gaps for words. Rules, each with a pattern, read lines of which each fits the pattern
of one rule.
-/

namespace TableSchema.Generate

/-- A text that is written out. -/
inductive Literal : String → Type
  | of (text : String) : Literal text

/-- The characters of a text that is written out. They are known as soon as the text is, so that no
proof has to compute them. -/
def spelled {cs : List Char} (_literal : Literal (String.ofList cs)) : List Char :=
  cs

theorem toList_around {before after : List Char} (word : String) :
    (String.ofList before ++ word ++ String.ofList after).toList =
      before ++ word.toList ++ after := by
  simp

theorem toList_append_spelled {first second : List Char} :
    (String.ofList first ++ String.ofList second).toList = first ++ second := by
  simp

/-- The line at which a block is opened. -/
theorem toList_opening {before after brace : List Char} (word : String) :
    (String.ofList before ++ word ++ String.ofList after ++ String.ofList brace).toList =
      before ++ word.toList ++ (after ++ brace) := by
  simp

/-! ## Tokens -/

/-- A word of a line, or a mark, which is one character. -/
abbrev Token := List Char

/-- The words and marks of a line. Blanks only stand between them. -/
def tokens : List Char → List Token
  | [] => []
  | c :: rest =>
      if c = ' ' then tokens rest
      else if isIdentifierPart c && rest.head?.any isIdentifierPart then
        match tokens rest with
        | [] => [[c]]
        | word :: others => (c :: word) :: others
      else [c] :: tokens rest

theorem tokens_indentLine (line : String) :
    tokens (indentLine line).toList = tokens line.toList := by
  unfold indentLine
  split
  · rfl
  · rw [String.toList_append]
    rfl

theorem ne_space_of_isIdentifierPart {c : Char} (hpart : isIdentifierPart c) : c ≠ ' ' := by
  rintro rfl
  exact absurd hpart (by decide)

theorem exists_tokens_cons {c : Char} (hpart : isIdentifierPart c) (rest : List Char) :
    ∃ word others, tokens (c :: rest) = word :: others := by
  rw [tokens, if_neg (ne_space_of_isIdentifierPart hpart)]
  split
  · cases tokens rest with
    | nil => exact ⟨_, _, rfl⟩
    | cons word others => exact ⟨_, _, rfl⟩
  · exact ⟨_, _, rfl⟩

/-- No token goes on across a place at which a word cannot go on. -/
theorem tokens_append {first second : List Char}
    (hbreak : first.getLast?.any isIdentifierPart = false ∨
      second.head?.any isIdentifierPart = false) :
    tokens (first ++ second) = tokens first ++ tokens second := by
  induction first with
  | nil => rfl
  | cons c rest ih =>
      cases rest with
      | nil =>
          -- Only the last character of the first part could go on in the second one.
          have hword : (isIdentifierPart c && second.head?.any isIdentifierPart) = false := by
            rcases hbreak with hbreak | hbreak
            · have hpart : isIdentifierPart c = false := by simpa using hbreak
              rw [hpart, Bool.false_and]
            · rw [hbreak, Bool.and_false]
          rw [List.cons_append, List.nil_append, tokens, hword]
          by_cases hspace : c = ' ' <;> simp [tokens, hspace]
      | cons d rest =>
          rw [List.getLast?_cons_cons] at hbreak
          have hrest := ih hbreak
          rw [List.cons_append, tokens, tokens, hrest]
          rw [show (d :: rest ++ second).head? = (d :: rest).head? from rfl]
          split
          · rfl
          · split
            next hword =>
              obtain ⟨word, others, htokens⟩ := exists_tokens_cons
                (by simpa using (Bool.and_eq_true_iff.1 hword).2) rest
              rw [htokens]
              rfl
            next => rfl

theorem tokens_word {word : List Char} (hne : word ≠ []) (hword : ∀ c ∈ word, isIdentifierPart c) :
    tokens word = [word] := by
  induction word with
  | nil => exact absurd rfl hne
  | cons c rest ih =>
      obtain ⟨hpart, hrest⟩ := List.forall_mem_cons.1 hword
      rw [tokens, if_neg (ne_space_of_isIdentifierPart hpart)]
      cases rest with
      | nil => simp [tokens]
      | cons d rest =>
          have hnext : isIdentifierPart d := hrest d List.mem_cons_self
          rw [ih (List.cons_ne_nil _ _) hrest]
          simp [hpart, hnext]

/-! ## Patterns -/

/-- A line with gaps for words: the texts before, between and after them. -/
structure Pattern where
  start : List Char
  others : List (List Char)

/-- A text that can stand in a gap. -/
structure Fitting (word : String) : Prop where
  isWord : IsWord word
  ne_empty : word ≠ ""

theorem Fitting.toList_ne_nil {word : String} (hfitting : Fitting word) : word.toList ≠ [] :=
  mt String.toList_eq_nil_iff.1 hfitting.ne_empty

theorem fitting_toString (n : Nat) : Fitting (toString n) where
  isWord := isWord_toString n
  ne_empty := by
    rw [Ne, ← String.toList_eq_nil_iff, Nat.toString_eq_repr, Nat.toList_repr]
    exact Nat.toDigits_ne_nil

theorem fitting_of_identifier {name : String} (hname : Identifier name) : Fitting name where
  isWord := isWord_of_identifier hname
  ne_empty := by
    rintro rfl
    exact absurd hname (by decide)

namespace Pattern

/-- The line with words in its gaps. -/
def fill (pattern : Pattern) (words : List String) : List Char :=
  (words.zip pattern.others).foldl (fun line (word, text) => line ++ word.toList ++ text)
    pattern.start

theorem fill_eq_append (pattern : Pattern) (words : List String) :
    pattern.fill words = pattern.start ++
      (words.zip pattern.others).foldr (fun (word, text) rest => word.toList ++ (text ++ rest))
        [] := by
  obtain ⟨start, others⟩ := pattern
  induction others generalizing start words with
  | nil => simp [fill]
  | cons text others ih =>
      cases words with
      | nil => simp [fill]
      | cons word words =>
          refine (ih words (start ++ word.toList ++ text)).trans ?_
          simp

/-- The tokens of the line, and where there are gaps. -/
def tokens (pattern : Pattern) : List (Option Token) :=
  (Generate.tokens pattern.start).map some ++
    pattern.others.flatMap fun text => none :: (Generate.tokens text).map some

/-- Words in gaps do not touch other words. -/
def Separated (pattern : Pattern) : Prop :=
  (∀ text ∈ (pattern.start :: pattern.others).dropLast,
      text.getLast?.any isIdentifierPart = false) ∧
    ∀ text ∈ pattern.others, text ≠ [] ∧ text.head?.any isIdentifierPart = false

instance (pattern : Pattern) : Decidable pattern.Separated :=
  inferInstanceAs (Decidable (_ ∧ _))

/-- No quotes stand in the texts of a pattern. -/
def Plain (pattern : Pattern) : Prop :=
  '"' ∉ pattern.start ∧ ∀ text ∈ pattern.others, '"' ∉ text

instance (pattern : Pattern) : Decidable pattern.Plain :=
  inferInstanceAs (Decidable (_ ∧ _))

theorem tokens_fill {pattern : Pattern} {words : List String} (hseparated : pattern.Separated)
    (hwords : ∀ word ∈ words, Fitting word) :
    Generate.tokens (pattern.fill words) = Generate.tokens pattern.start ++
      (words.zip pattern.others).flatMap fun (word, text) =>
        word.toList :: Generate.tokens text := by
  obtain ⟨start, others⟩ := pattern
  induction others generalizing start words with
  | nil => simp [fill]
  | cons text others ih =>
      cases words with
      | nil => simp [fill]
      | cons word words =>
          obtain ⟨hends, hothers⟩ := hseparated
          obtain ⟨⟨hne, hhead⟩, hothers⟩ := List.forall_mem_cons.1 hothers
          obtain ⟨hword, hwords⟩ := List.forall_mem_cons.1 hwords
          rw [List.dropLast_cons_cons, List.forall_mem_cons] at hends
          -- The word is closed off by the text after it, and both become part of the start.
          have hline : Generate.tokens (start ++ word.toList ++ text) =
              Generate.tokens start ++ word.toList :: Generate.tokens text := by
            rw [tokens_append (.inr hhead), tokens_append (.inl hends.1),
              tokens_word hword.toList_ne_nil hword.isWord, List.append_assoc,
              List.singleton_append]
          have hrest : Separated ⟨start ++ word.toList ++ text, others⟩ := by
            refine ⟨?_, hothers⟩
            cases others with
            | nil => simp
            | cons next others =>
                have hlast := hends.2
                rw [List.dropLast_cons_cons, List.forall_mem_cons] at hlast ⊢
                rwa [List.getLast?_append_of_ne_nil _ hne]
          rw [List.zip_cons_cons, List.flatMap_cons, ← List.append_assoc, ← hline,
            ← ih hwords _ hrest]
          rfl

/-- The last word that is put in stands in quotes. -/
theorem fill_quoted (start : List Char) (others : List (List Char)) (text after : List Char)
    {words : List String} (hlength : words.length = others.length + 1) (word : String) :
    (mk start (others ++ [text ++ ['"'], '"' :: after])).fill (words ++ [word]) =
      (mk start (others ++ [text])).fill words ++ '"' :: (word.toList ++ '"' :: after) := by
  obtain ⟨first, last, rfl⟩ : ∃ first last, words = first ++ [last] :=
    ⟨_, _, (List.dropLast_append_getLast (List.ne_nil_of_length_eq_add_one hlength)).symm⟩
  have hfirst : first.length = others.length := by simpa using hlength
  simp [fill, List.zip_append hfirst, List.append_assoc]

end Pattern

/-- What stands in the gaps between tokens. -/
def capture : List (Option Token) → List Token → Option (List Token)
  | [], [] => some []
  | [], _ :: _ => none
  | _ :: _, [] => none
  | none :: pattern, token :: line => (capture pattern line).map (token :: ·)
  | some expected :: pattern, token :: line =>
      if token = expected then capture pattern line else none

theorem capture_append (known : List Token) (pattern : List (Option Token)) (line : List Token) :
    capture (known.map some ++ pattern) (known ++ line) = capture pattern line := by
  induction known with
  | nil => rfl
  | cons token known ih =>
      rw [List.map_cons, List.cons_append, List.cons_append, capture, if_pos rfl, ih]

/-- A line is a pattern with words in its gaps. -/
structure Pattern.Fills (pattern : Pattern) (line : List Char) (words : List String) : Prop where
  line_eq : line = pattern.fill words
  separated : pattern.Separated
  length_eq : words.length = pattern.others.length
  fitting : ∀ word ∈ words, Fitting word

theorem Pattern.Fills.capture_eq {pattern : Pattern} {line : List Char} {words : List String}
    (hfills : pattern.Fills line words) :
    capture pattern.tokens (Generate.tokens line) = some (words.map String.toList) := by
  obtain ⟨rfl, hseparated, hlength, hwords⟩ := hfills
  rw [tokens_fill hseparated hwords, Pattern.tokens, capture_append]
  obtain ⟨start, others⟩ := pattern
  clear hseparated hwords
  induction others generalizing words with
  | nil =>
      obtain rfl := List.length_eq_zero_iff.1 hlength
      rfl
  | cons text others ih =>
      obtain ⟨word, words, rfl⟩ := List.exists_cons_of_length_eq_add_one hlength
      have hrest : words.length = others.length := by simpa using hlength
      rw [List.flatMap_cons, List.zip_cons_cons, List.flatMap_cons, List.cons_append,
        List.cons_append, capture, capture_append, ih hrest]
      rfl

/-- Tokens with gaps differ in a place where neither has a gap. -/
def apart : List (Option Token) → List (Option Token) → Bool
  | [], [] => false
  | [], _ :: _ => true
  | _ :: _, [] => true
  | some expected :: pattern, some other :: others => expected ≠ other || apart pattern others
  | none :: pattern, _ :: others => apart pattern others
  | some _ :: pattern, none :: others => apart pattern others

theorem apart_comm (pattern other : List (Option Token)) :
    apart pattern other = apart other pattern := by
  fun_induction apart pattern other with
  | case1 => rfl
  | case2 => rfl
  | case3 => rfl
  | case4 expected pattern unexpected others ih =>
      rw [apart, ih]
      simp [eq_comm]
  | case5 pattern other others ih =>
      cases other with
      | none => rw [apart, ih]
      | some => rw [apart, ih]
  | case6 expected pattern others ih => rw [apart, ih]

/-- No line fits tokens that are apart. -/
theorem capture_of_apart {pattern other : List (Option Token)} {line : List Token}
    (hapart : apart pattern other) (hfits : (capture pattern line).isSome) :
    capture other line = none := by
  fun_induction apart pattern other generalizing line with
  | case1 => cases hapart
  | case2 p others =>
      cases line with
      | nil => rfl
      | cons token line => cases hfits
  | case3 p pattern =>
      cases line with
      | nil => cases hfits
      | cons token line => rfl
  | case4 expected pattern unexpected others ih =>
      cases line with
      | nil => cases hfits
      | cons token line =>
          rw [capture] at hfits ⊢
          split at hfits
          next htoken =>
            subst htoken
            split
            next heq => exact ih (by simpa [heq] using hapart) hfits
            next => rfl
          next => cases hfits
  | case5 pattern other others ih =>
      cases line with
      | nil => cases hfits
      | cons token line =>
          rw [capture, Option.isSome_map] at hfits
          -- A gap takes any token, so the patterns have to be apart further on.
          have hnone := ih hapart hfits
          cases other with
          | none => rw [capture, hnone, Option.map_none]
          | some unexpected =>
              rw [capture, hnone]
              exact ite_self _
  | case6 expected pattern others ih =>
      cases line with
      | nil => cases hfits
      | cons token line =>
          rw [capture] at hfits
          split at hfits
          next => rw [capture, ih hapart hfits, Option.map_none]
          next => cases hfits

/-! ## Rules -/

/-- A kind of line: its pattern, and what such a line does, given the words in its gaps. -/
structure LineRule (α : Type) where
  pattern : Pattern
  meaning : List String → List α

variable {α : Type}

namespace LineRule

/-- Lines that do nothing of interest. -/
def idle (start : List Char) (others : List (List Char)) : LineRule α where
  pattern := ⟨start, others⟩
  meaning _ := []

/-- Just one line. -/
def fixed (line : List Char) (found : List α) : LineRule α where
  pattern := ⟨line, []⟩
  meaning _ := found

/-- Lines in which a word stands between two texts. -/
def around (before after : List Char) (found : String → α) : LineRule α where
  pattern := ⟨before, [after]⟩
  meaning words := words.map found

end LineRule

/-- No line fits two of the rules. -/
def Exclusive (rules : List (LineRule α)) : Prop :=
  rules.Pairwise fun rule other => apart rule.pattern.tokens other.pattern.tokens

instance (rules : List (LineRule α)) : Decidable (Exclusive rules) :=
  inferInstanceAs (Decidable (rules.Pairwise _))

/-- The kinds of lines of some code. -/
structure LineKinds (α : Type) where
  /-- Lines without gaps and quotes, and what they do. -/
  fixed : List (List Char × List α)
  /-- Other lines without quotes. -/
  plain : List (LineRule α)
  quoted : List (LineRule α)

def LineKinds.rules (kinds : LineKinds α) : List (LineRule α) :=
  kinds.plain ++ kinds.quoted ++ kinds.fixed.map fun (line, found) => .fixed line found

/-- Kinds of lines that can be told apart. -/
structure LineGrammar (α : Type) extends LineKinds α where
  exclusive : Exclusive toLineKinds.rules
  separated : ∀ rule ∈ toLineKinds.rules, rule.pattern.Separated
  fixed_plain : ∀ entry ∈ fixed, '"' ∉ entry.1
  plain_plain : ∀ rule ∈ plain, rule.pattern.Plain

/-- What the rule that a line fits says about it. -/
def readLine (rules : List (LineRule α)) (line : List Char) : Option (List α) :=
  rules.findSome? fun rule =>
    (capture rule.pattern.tokens (tokens line)).map fun words =>
      rule.meaning (words.map String.ofList)

theorem readLine_eq_none {rules : List (LineRule α)} {pattern : Pattern} {line : List Char}
    {words : List String} (hfills : pattern.Fills line words)
    (hapart : ∀ rule ∈ rules, apart pattern.tokens rule.pattern.tokens) :
    readLine rules line = none := by
  have hfits : (capture pattern.tokens (tokens line)).isSome := by
    rw [hfills.capture_eq]
    rfl
  refine List.findSome?_eq_none_iff.2 fun rule hmem => ?_
  rw [capture_of_apart (hapart rule hmem) hfits, Option.map_none]

theorem readLine_of_fills {rules : List (LineRule α)} (hexclusive : Exclusive rules)
    {rule : LineRule α} (hmem : rule ∈ rules) {line : List Char} {words : List String}
    (hfills : rule.pattern.Fills line words) :
    readLine rules line = some (rule.meaning words) := by
  obtain ⟨before, after, rfl⟩ := List.append_of_mem hmem
  obtain ⟨-, -, hbefore⟩ := List.pairwise_append.1 hexclusive
  -- The rules before this one are asked first, but none of them fits.
  have hnone : readLine before line = none :=
    readLine_eq_none hfills fun other hother =>
      (apart_comm _ _).trans (hbefore other hother rule List.mem_cons_self)
  have hwords : (words.map String.toList).map String.ofList = words := by
    simp [Function.comp_def]
  unfold readLine at hnone ⊢
  rw [List.findSome?_append, hnone, Option.none_or, List.findSome?_cons, hfills.capture_eq,
    Option.map_some, hwords]

/-! ## Texts in quotes -/

/-- The text between the first two quotes of a line. -/
def quotedText (line : List Char) : Option String :=
  match line.dropWhile (· ≠ '"') with
  | [] => none
  | _ :: rest => some (String.ofList (rest.takeWhile (· ≠ '"')))

theorem forall_ne_quote {cs : List Char} (hquote : '"' ∉ cs) : ∀ c ∈ cs, (c ≠ '"' : Bool) :=
  fun _ hmem => decide_eq_true (ne_of_mem_of_not_mem hmem hquote)

theorem quotedText_of_not_mem {line : List Char} (hquote : '"' ∉ line) :
    quotedText line = none := by
  have hnone : line.dropWhile (· ≠ '"') = [] :=
    List.dropWhile_eq_nil_iff.2 (forall_ne_quote hquote)
  rw [quotedText, hnone]

theorem quotedText_eq {before cs : List Char} {text : String} (htext : text.toList = cs)
    (after : List Char) (hbefore : '"' ∉ before) (hcs : '"' ∉ cs) :
    quotedText (before ++ '"' :: (cs ++ '"' :: after)) = some text := by
  have hrest : (before ++ '"' :: (cs ++ '"' :: after)).dropWhile (· ≠ '"') =
      '"' :: (cs ++ '"' :: after) := by
    rw [List.dropWhile_append_of_pos (forall_ne_quote hbefore)]
    rfl
  have hcut : (cs ++ '"' :: after).takeWhile (· ≠ '"') = cs := by
    rw [List.takeWhile_append_of_pos (forall_ne_quote hcs)]
    simp
  rw [quotedText, hrest]
  dsimp only
  rw [hcut, ← htext, String.ofList_toList]

theorem quotedText_indentLine (line : String) :
    quotedText (indentLine line).toList = quotedText line.toList := by
  unfold indentLine
  split
  · rfl
  · unfold quotedText
    rw [String.toList_append]
    rfl

theorem Fitting.quote_not_mem {word : String} (hfitting : Fitting word) : '"' ∉ word.toList :=
  fun hmem => absurd (hfitting.isWord _ hmem) (by decide)

theorem Pattern.Plain.quote_not_mem {pattern : Pattern} (hplain : pattern.Plain)
    {words : List String} (hwords : ∀ word ∈ words, Fitting word) : '"' ∉ pattern.fill words := by
  obtain ⟨start, others⟩ := pattern
  induction others generalizing start words with
  | nil =>
      rw [fill, List.zip_nil_right]
      exact hplain.1
  | cons text others ih =>
      cases words with
      | nil => exact hplain.1
      | cons word words =>
          obtain ⟨hstart, hothers⟩ := hplain
          obtain ⟨htext, hothers⟩ := List.forall_mem_cons.1 hothers
          obtain ⟨hword, hwords⟩ := List.forall_mem_cons.1 hwords
          refine ih hwords (start ++ word.toList ++ text) ⟨?_, hothers⟩
          simp [hstart, htext, hword.quote_not_mem]

/-- A word stands in quotes after a pattern without any. -/
theorem Pattern.Plain.quotedText_fill {pattern : Pattern} (hplain : pattern.Plain)
    {words : List String} (hwords : ∀ word ∈ words, Fitting word) {word : String}
    (hword : Fitting word) (after : List Char) :
    quotedText (pattern.fill words ++ '"' :: (word.toList ++ '"' :: after)) = some word :=
  quotedText_eq rfl after (hplain.quote_not_mem hwords) hword.quote_not_mem

/-- A word stands in quotes together with what is around it. -/
theorem quotedText_around {before first last : List Char} {word text : String}
    (hword : Fitting word) (after : List Char) (htext : text.toList = first ++ word.toList ++ last)
    (hbefore : '"' ∉ before) (hfirst : '"' ∉ first) (hlast : '"' ∉ last) :
    quotedText (before ++ '"' :: first ++ word.toList ++ (last ++ '"' :: after)) = some text := by
  rw [← quotedText_eq htext after hbefore (by simp [hfirst, hlast, hword.quote_not_mem])]
  simp

end TableSchema.Generate
