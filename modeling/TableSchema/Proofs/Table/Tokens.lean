import Mathlib.Data.List.TakeWhile
import Mathlib.Order.Basic
import TableSchema.Table.Rules

/-!
# Tokens are parts

A splitter gives one token after the other and knows the byte at which the next one starts. All of
its tokens are the parts of the text between the delimiters, and a record is read from just as many
parts as it has fields.
-/

namespace TableSchema

/-! ## Splitters -/

namespace Splitter

variable {delimiter : Char}

/-- The last token is what is left of a text without delimiter. -/
theorem next?_of_not_mem {before rest : List Char} (hnot : delimiter ∉ rest) :
    next? ⟨before ++ rest, delimiter, Bytes.size before⟩ =
      some (rest, ⟨before ++ rest, delimiter, Bytes.size (before ++ rest) + 1⟩) := by
  have hwithin : ¬ Bytes.size before + Bytes.size rest < Bytes.size before := by omega
  by_cases hempty : Bytes.size rest = 0
  · obtain rfl : rest = [] := by
      cases rest with
      | nil => rfl
      | cons c rest =>
          have hpos := Char.utf8Size_pos c
          simp only [Bytes.size] at hempty
          omega
    simp [next?, moveTo]
  · have hall : rest.takeWhile (· ≠ delimiter) = rest := by
      refine List.takeWhile_eq_self_iff.2 fun c hc => decide_eq_true ?_
      rintro rfl
      exact hnot hc
    have hcontains : rest.contains delimiter = false := by simp [hnot]
    have hinside : Bytes.size before ≠ Bytes.size before + Bytes.size rest := by omega
    simp only [next?, Bytes.size_append, Bytes.drop_size_append, if_neg hwithin, if_neg hinside,
      hall, hcontains, moveTo]
    rfl

/-- A token before a delimiter. -/
theorem next?_of_delimiter {before token after : List Char} (hsize : delimiter.utf8Size = 1)
    (hnot : delimiter ∉ token) :
    next? ⟨before ++ (token ++ delimiter :: after), delimiter, Bytes.size before⟩ =
      some (token, ⟨before ++ (token ++ delimiter :: after), delimiter,
        Bytes.size (before ++ token ++ [delimiter])⟩) := by
  have htoken : (token ++ delimiter :: after).takeWhile (· ≠ delimiter) = token := by
    rw [List.takeWhile_append_of_pos]
    · simp
    · intro c hc
      apply decide_eq_true
      rintro rfl
      exact hnot hc
  have hcontains : (token ++ delimiter :: after).contains delimiter = true := by simp
  have hrest : Bytes.size (token ++ delimiter :: after) =
      Bytes.size token + 1 + Bytes.size after := by
    simp [Bytes.size, hsize, Nat.add_assoc]
  have hwithin : ¬ Bytes.size before + Bytes.size (token ++ delimiter :: after) <
      Bytes.size before := by omega
  have hinside : Bytes.size before ≠
      Bytes.size before + Bytes.size (token ++ delimiter :: after) := by omega
  simp only [next?, Bytes.size_append before, Bytes.drop_size_append, if_neg hwithin,
    if_neg hinside, htoken, hcontains, if_pos, moveTo]
  simp [Bytes.size, hsize, Nat.add_assoc]

end Splitter

namespace Rules

/-! ## Tokens -/

section Tokens

variable {rules : Rules}

theorem tokens_of_none {s : Splitter} (hnext : rules.next? s = none) : rules.tokens s = [] := by
  rw [tokens]
  split
  · rfl
  next hsome => rw [hnext] at hsome; cases hsome

theorem tokens_of_some {s t : Splitter} {token : List Char}
    (hnext : rules.next? s = some (token, t)) : rules.tokens s = token :: rules.tokens t := by
  rw [tokens]
  split
  next hnone => rw [hnext] at hnone; cases hnone
  next hsome =>
    rw [hnext] at hsome
    cases hsome
    rfl

end Tokens

/-- The tokens that are left are the parts of the text that is left. -/
theorem tokens_from {delimiter : Char} (hsize : delimiter.utf8Size = 1) (before rest : List Char) :
    rust.tokens ⟨before ++ rest, delimiter, Bytes.size before⟩ = rest.splitOn delimiter := by
  by_cases hmem : delimiter ∈ rest
  case neg =>
    have hlast : rust.next?
        ⟨before ++ rest, delimiter, Bytes.size (before ++ rest) + 1⟩ = none := by
      simp [rust, Splitter.next?]
    rw [tokens_of_some (Splitter.next?_of_not_mem hmem), tokens_of_none hlast,
      List.splitOn_eq_singleton hmem]
  case pos =>
    -- The next token starts behind the first delimiter, in a shorter text.
    obtain ⟨token, after, rfl, hnot⟩ := List.eq_append_cons_of_mem hmem
    have hrest := tokens_from hsize (before ++ token ++ [delimiter]) after
    have hsame : before ++ token ++ [delimiter] ++ after =
        before ++ (token ++ delimiter :: after) := by simp
    rw [hsame] at hrest
    rw [tokens_of_some (Splitter.next?_of_delimiter hsize hnot), hrest,
      List.splitOn_append_cons_self_of_not_mem hnot]
termination_by rest.length

theorem tokens_ofText {delimiter : Char} (hsize : delimiter.utf8Size = 1) (text : List Char) :
    rust.tokens (.ofText text delimiter) = text.splitOn delimiter :=
  tokens_from hsize [] text

/-! ## Records -/

section Records

variable {rules : Rules} {fields : List (String × FieldType)}

/-- The atoms of tokens. -/
def readAtoms (rules : Rules) (fields : List (String × FieldType)) (tokens : List (List Char)) :
    List Atom :=
  List.zipWith (fun field token => rules.readAtom field.2 token) fields tokens

/-- Fields take as many tokens and leave the others. -/
theorem map_readFields (s : Splitter) :
    (rules.readFields fields s).map (fun read => (read.1, rules.tokens read.2)) =
      if fields.length ≤ (rules.tokens s).length then
        some (readAtoms rules fields (rules.tokens s), (rules.tokens s).drop fields.length)
      else none := by
  induction fields generalizing s with
  | nil => simp [readFields, readAtoms]
  | cons field fields ih =>
      cases hnext : rules.next? s with
      | none => simp [readFields, hnext, tokens_of_none hnext]
      | some step =>
          obtain ⟨token, t⟩ := step
          have hrest := ih t
          rw [tokens_of_some hnext]
          simp only [readFields, hnext, Option.bind_eq_bind, Option.bind_some, List.length_cons,
            Nat.add_le_add_iff_right, List.drop_succ_cons, readAtoms, List.zipWith_cons_cons]
          by_cases henough : fields.length ≤ (rules.tokens t).length
          · rw [if_pos henough] at hrest ⊢
            obtain ⟨⟨atoms, u⟩, hread, heq⟩ := Option.map_eq_some_iff.1 hrest
            obtain ⟨rfl, hleft⟩ := Prod.mk.inj heq
            simpa [hread, readAtoms] using hleft
          · rw [if_neg henough] at hrest ⊢
            simp [Option.map_eq_none_iff.1 hrest]

theorem isSome_next?_iff {s : Splitter} : (rules.next? s).isSome ↔ rules.tokens s ≠ [] := by
  cases hnext : rules.next? s with
  | none => simp [tokens_of_none hnext]
  | some step => simp [tokens_of_some hnext]

/-- A record with fields is read from a token for each of them. -/
theorem readRecord_eq_some_iff (hfields : fields ≠ []) {text : List Char} {atoms : List Atom} :
    rules.readRecord fields text = some atoms ↔
      (rules.tokens (.ofText text fieldDelimiter)).length = fields.length ∧
        readAtoms rules fields (rules.tokens (.ofText text fieldDelimiter)) = atoms := by
  have hread := @map_readFields rules fields (.ofText text fieldDelimiter)
  -- All that is read of the text are its tokens.
  generalize rules.tokens (.ofText text fieldDelimiter) = tokens at hread ⊢
  rw [readRecord, if_neg (by simpa using hfields)]
  by_cases henough : fields.length ≤ tokens.length
  · rw [if_pos henough] at hread
    obtain ⟨⟨first, u⟩, hfirst, heq⟩ := Option.map_eq_some_iff.1 hread
    obtain ⟨rfl, hleft⟩ := Prod.mk.inj heq
    have hmore : (rules.next? u).isSome ↔ fields.length < tokens.length := by
      rw [isSome_next?_iff, hleft, ne_eq, List.drop_eq_nil_iff, not_le]
    simp only [hfirst, Option.bind_eq_bind, Option.bind_some, hmore]
    by_cases hexact : tokens.length = fields.length
    · simp [hexact]
    · rw [if_pos (by omega)]
      simp [hexact]
  · rw [if_neg henough, Option.map_eq_none_iff] at hread
    have hexact : tokens.length ≠ fields.length := by omega
    simp [hread, hexact]

end Records

end Rules

end TableSchema
