import TableSchema.Proofs.Table.CellRules
import TableSchema.Proofs.Table.LineEnds
import TableSchema.Proofs.Table.Tokens
import TableSchema.Proofs.Text.Parts
import TableSchema.Proofs.Text.Utf8
import TableSchema.Table.ByteSplitter
import TableSchema.Table.TokenReads

/-!
# Tokens are read in turn

The reads of a cell deliver its tokens one by one, however texts, integers and passed-over tokens
are mixed. What a splitter has to do for this is said in `TakesTokens`: it takes a token that ends
at a delimiter, takes the last one, and takes none after that. Splitters by characters and by bytes
all do, so their places agree after every read.
-/

namespace TableSchema

open Bytes (BadSlice encode size slice)

/-- What stands in a text before the token of a number: the tokens before it, each with the
delimiter after it. -/
def textBefore (delimiter : Char) (tokens : List (List Char)) (k : Nat) : List Char :=
  (tokens.take k).flatMap (· ++ [delimiter])

section TextBefore

variable {delimiter : Char} {text : List Char} {k : Nat}

theorem textBefore_succ_of_token {tokens : List (List Char)} {token : List Char}
    (htoken : tokens[k]? = some token) :
    textBefore delimiter tokens (k + 1) =
      textBefore delimiter tokens k ++ token ++ [delimiter] := by
  rw [textBefore, List.take_add_one, htoken, List.flatMap_append, textBefore, List.append_assoc]
  simp

/-- A text up to a token, the token, and what follows it: nothing or a delimiter and more. -/
theorem textBefore_append {token : List Char}
    (htoken : (text.splitOn delimiter)[k]? = some token) :
    (k + 1 = (text.splitOn delimiter).length ∧
        textBefore delimiter (text.splitOn delimiter) k ++ token = text) ∨
      ∃ after, textBefore delimiter (text.splitOn delimiter) k ++
        (token ++ delimiter :: after) = text := by
  have hback : [delimiter].intercalate (text.splitOn delimiter) = text :=
    List.intercalate_splitOn delimiter
  generalize text.splitOn delimiter = tokens at htoken hback ⊢
  obtain ⟨hk, hentry⟩ := List.getElem?_eq_some_iff.1 htoken
  have hsplit := @flatMap_take_append_intercalate_drop Char delimiter tokens k hk
  rw [hback, List.drop_eq_getElem_cons hk, hentry] at hsplit
  cases hrest : tokens.drop (k + 1) with
  | nil =>
      have hlength := List.drop_eq_nil_iff.1 hrest
      rw [hrest] at hsplit
      exact .inl ⟨by omega, by simpa [textBefore] using hsplit⟩
  | cons next others =>
      rw [hrest, List.intercalate_cons_cons] at hsplit
      exact .inr ⟨_, by simpa [textBefore] using hsplit⟩

/-- After the last token stands the end of the text, and the place is one past it. -/
theorem textBefore_of_length_le (hk : (text.splitOn delimiter).length ≤ k) :
    textBefore delimiter (text.splitOn delimiter) k = text ++ [delimiter] := by
  have hback : [delimiter].intercalate (text.splitOn delimiter) = text :=
    List.intercalate_splitOn delimiter
  rw [textBefore, List.take_of_length_le hk,
    flatMap_append_delimiter (List.splitOn_ne_nil delimiter text), hback]

theorem exists_textBefore_append {token : List Char}
    (htoken : (text.splitOn delimiter)[k]? = some token) :
    ∃ after, textBefore delimiter (text.splitOn delimiter) k ++ token ++ after = text := by
  rcases textBefore_append htoken with ⟨-, htext⟩ | ⟨after, htext⟩
  · exact ⟨[], by rw [List.append_nil, htext]⟩
  · exact ⟨delimiter :: after, by rw [List.append_assoc, htext]⟩

theorem size_textBefore_of_length_le (hsize : delimiter.utf8Size = 1)
    (hk : (text.splitOn delimiter).length ≤ k) :
    size (textBefore delimiter (text.splitOn delimiter) k) = size text + 1 := by
  rw [textBefore_of_length_le hk, Bytes.size_append, size, size, hsize]

/-- A place lies past the end of the text just if there are no tokens from there on. -/
theorem size_lt_size_textBefore_iff (hsize : delimiter.utf8Size = 1) :
    size text < size (textBefore delimiter (text.splitOn delimiter) k) ↔
      (text.splitOn delimiter).length ≤ k := by
  constructor
  · intro hpast
    by_contra hk
    obtain ⟨after, htext⟩ := exists_textBefore_append (List.getElem?_eq_getElem (not_le.1 hk))
    have htotal := congrArg size htext
    rw [Bytes.size_append, Bytes.size_append] at htotal
    omega
  · intro hk
    rw [size_textBefore_of_length_le hsize hk]
    exact Nat.lt_succ_self _

end TextBefore

/-! ## Reads in turn -/

/-- A step of a splitter takes the tokens of a text one by one. Its states are given by a text and
the place of the next token, and tokens are given in the form in which it takes them. -/
structure TakesTokens {m : Type → Type} [Monad m] {σ τ : Type} (delimiter : Char)
    (form : List Char → τ) (stateAt : List Char → Nat → σ) (next? : σ → m (Option (τ × σ))) :
    Prop where
  /-- The last token is what is left of a text without delimiter. -/
  last : ∀ before token, delimiter ∉ token →
    next? (stateAt (before ++ token) (size before)) =
      pure (some (form token, stateAt (before ++ token) (size (before ++ token) + 1)))
  /-- A token before a delimiter. -/
  inner : ∀ before token after, delimiter ∉ token →
    next? (stateAt (before ++ (token ++ delimiter :: after)) (size before)) =
      pure (some (form token, stateAt (before ++ (token ++ delimiter :: after))
        (size (before ++ token ++ [delimiter]))))
  /-- No token is left. -/
  exhausted : ∀ text, next? (stateAt text (size text + 1)) = pure none

section Reads

variable {m : Type → Type} [Monad m] {σ τ : Type} {delimiter : Char} {form : List Char → τ}
  {stateAt : List Char → Nat → σ} {next? : σ → m (Option (τ × σ))}
  (htakes : TakesTokens delimiter form stateAt next?) (hsize : delimiter.utf8Size = 1)
include htakes hsize

/-- After some tokens the next one is taken if there is one. -/
theorem TakesTokens.next?_eq (text : List Char) (k : Nat) :
    let tokens := text.splitOn delimiter
    next? (stateAt text (size (textBefore delimiter tokens k))) =
      pure (tokens[k]?.map fun token =>
        (form token, stateAt text (size (textBefore delimiter tokens (k + 1))))) := by
  dsimp only
  cases htoken : (text.splitOn delimiter)[k]? with
  | none =>
      have hk := List.getElem?_eq_none_iff.1 htoken
      rw [size_textBefore_of_length_le hsize hk, htakes.exhausted]
      rfl
  | some token =>
      have hnot := not_mem_of_mem_splitOn (List.mem_of_getElem? htoken)
      rw [textBefore_succ_of_token htoken]
      rcases textBefore_append htoken with ⟨-, htext⟩ | ⟨after, htext⟩
      · have hlast := htakes.last (textBefore delimiter (text.splitOn delimiter) k) token hnot
        have hend : size (text ++ [delimiter]) = size text + 1 := by
          rw [Bytes.size_append, size, size, hsize]
        rw [htext] at hlast
        rw [hlast, htext, hend]
        rfl
      · have hinner :=
          htakes.inner (textBefore delimiter (text.splitOn delimiter) k) token after hnot
        rw [htext] at hinner
        rw [hinner]
        rfl

/-- Reads deliver the tokens from one on, in their order, and nothing once no token is left. -/
theorem TakesTokens.runEach_eq [LawfulMonad m] (readInt : τ → Int32) (text : List Char) (k : Nat)
    (reads : List TokenRead) :
    let tokens := text.splitOn delimiter
    TokenRead.runEach next? readInt (stateAt text (size (textBefore delimiter tokens k))) reads =
      pure (reads.mapIdx fun i read =>
        (tokens[k + i]?.map fun token => read.answer readInt (form token),
          stateAt text (size (textBefore delimiter tokens (k + i + 1))))) := by
  dsimp only
  induction reads generalizing k with
  | nil => rfl
  | cons read rest ih =>
      have hrest := ih (k + 1)
      simp only [Nat.add_right_comm k 1] at hrest
      have hstep := htakes.next?_eq hsize text k
      dsimp only at hstep
      rw [TokenRead.runEach, TokenRead.run, hstep, List.mapIdx_cons, Nat.add_zero]
      cases htoken : (text.splitOn delimiter)[k]? with
      | none =>
          -- The place stays one past the end.
          have hk := List.getElem?_eq_none_iff.1 htoken
          have hsame : textBefore delimiter (text.splitOn delimiter) (k + 1) =
              textBefore delimiter (text.splitOn delimiter) k := by
            rw [textBefore_of_length_le hk, textBefore_of_length_le (Nat.le_succ_of_le hk)]
          rw [hsame] at hrest
          simp [hrest, hsame, Nat.add_assoc]
      | some token => simp [hrest, Nat.add_assoc]

end Reads

/-! ## Splitters by characters -/

/-- The splitters of both rules take the tokens of a text. -/
theorem Splitter.takesTokens {delimiter : Char} (hsize : delimiter.utf8Size = 1) :
    TakesTokens (m := Id) delimiter id (fun text i => Splitter.mk text delimiter i)
      fun s => pure s.next? where
  last := fun _ _ hnot => congrArg pure (next?_of_not_mem hnot)
  inner := fun _ _ _ hnot => congrArg pure (next?_of_delimiter hsize hnot)
  exhausted := fun text => by simp [next?]

/-- Both rules read the tokens of a text in turn. -/
theorem Rules.readTokens_eq {rules : Rules} (hrules : rules.next? = Splitter.next?)
    {delimiter : Char} (hsize : delimiter.utf8Size = 1) (text : List Char)
    (reads : List TokenRead) :
    let tokens := text.splitOn delimiter
    rules.readTokens (.ofText text delimiter) reads = reads.mapIdx fun k read =>
      (tokens[k]?.map fun token => read.answer rules.readInt token,
        ⟨text, delimiter, size (textBefore delimiter tokens (k + 1))⟩) := by
  have hreads := (Splitter.takesTokens hsize).runEach_eq hsize rules.readInt text 0 reads
  dsimp only at hreads
  simp only [Nat.zero_add] at hreads
  rw [Rules.readTokens, hrules]
  exact hreads

/-! ## Splitters by bytes -/

section Bytes

variable {delimiter : Char}

theorem encode_delimiter (hascii : delimiter.toNat < 128) (rest : List Char) :
    encode (delimiter :: rest) = UInt8.ofNat delimiter.toNat :: encode rest := by
  have hval : delimiter.val.toNat ≤ 127 := Nat.le_of_lt_succ hascii
  rw [Bytes.encode_cons, String.utf8EncodeChar, if_pos hval]
  rfl

theorem delimiter_not_mem_encode (hascii : delimiter.toNat < 128) {text : List Char}
    (hnot : delimiter ∉ text) : UInt8.ofNat delimiter.toNat ∉ encode text := by
  intro hmem
  obtain ⟨c, hc, hbyte⟩ := List.mem_flatMap.1 hmem
  have hne : c ≠ delimiter := by
    rintro rfl
    exact hnot hc
  exact Bytes.ne_of_mem_utf8EncodeChar hascii hne hbyte rfl

theorem idxOf?_append_cons_of_not_mem {α : Type} [DecidableEq α] {a : α} {before : List α}
    (hnot : a ∉ before) (after : List α) :
    (before ++ a :: after).idxOf? a = some before.length := by
  induction before with
  | nil => simp [List.idxOf?_cons]
  | cons b rest ih =>
      rw [List.mem_cons, not_or] at hnot
      rw [List.cons_append, List.idxOf?_cons, if_neg (by simpa using Ne.symm hnot.1), ih hnot.2]
      rfl

/-- The delimiter is found among the bytes of a text where it stands among the characters. -/
theorem idxOf?_encode (hascii : delimiter.toNat < 128) {token : List Char}
    (hnot : delimiter ∉ token) (after : List Char) :
    (encode (token ++ delimiter :: after)).idxOf? (UInt8.ofNat delimiter.toNat) =
      some (size token) := by
  rw [Bytes.encode_append, encode_delimiter hascii,
    idxOf?_append_cons_of_not_mem (delimiter_not_mem_encode hascii hnot), Bytes.length_encode]

theorem drop_encode (before rest : List Char) :
    (encode (before ++ rest)).drop (size before) = encode rest := by
  rw [Bytes.encode_append, List.drop_left' (Bytes.length_encode before)]

/-- The place after a token and its delimiter, which is at most the end of the text. -/
theorem size_before_delimiter (hascii : delimiter.toNat < 128) (before token after : List Char) :
    size (before ++ token ++ [delimiter]) = size before + size token + 1 ∧
      size before + size token + 1 ≤ size (before ++ (token ++ delimiter :: after)) := by
  have hplace : size (before ++ token ++ [delimiter]) = size before + size token + 1 := by
    rw [Bytes.size_append, Bytes.size_append, ← Bytes.length_encode [delimiter],
      encode_delimiter hascii]
    rfl
  have htext : before ++ (token ++ delimiter :: after) =
      before ++ token ++ [delimiter] ++ after := by simp
  refine ⟨hplace, ?_⟩
  rw [← hplace, htext, Bytes.size_append _ after]
  exact Nat.le_add_right _ _

namespace ByteSplitter

variable (delimiter) in
/-- The splitter of a text at a place. -/
def stateAt (text : List Char) (i : Nat) : ByteSplitter :=
  ⟨encode text, UInt8.ofNat delimiter.toNat, i⟩

/-- By slices the tokens of a text are taken, and every slice lies between two characters. -/
theorem next?_takesTokens (hascii : delimiter.toNat < 128) :
    TakesTokens delimiter encode (stateAt delimiter) next? where
  last := by
    intro before token hnot
    have hfound := List.idxOf?_eq_none_iff.2 (delimiter_not_mem_encode hascii hnot)
    have hslice := Bytes.slice_encode before token []
    rw [List.append_nil] at hslice
    unfold next? stateAt
    simp only [Bytes.length_encode, drop_encode, hfound, hslice]
    rw [if_neg (by rw [Bytes.size_append]; omega)]
    split
    next hend =>
      -- The last token is empty.
      obtain rfl : token = [] := by
        by_contra hne
        have hpos := size_pos hne
        rw [Bytes.size_append] at hend
        omega
      simp [moveTo]
    next => rfl
  inner := by
    intro before token after hnot
    have hfound := idxOf?_encode hascii hnot after
    have hslice := Bytes.slice_encode before token (delimiter :: after)
    obtain ⟨hplace, hinside⟩ := size_before_delimiter hascii before token after
    rw [List.append_assoc, Bytes.size_append] at hslice
    unfold next? stateAt
    simp only [Bytes.length_encode, drop_encode, hfound, hslice]
    rw [if_neg (by omega), if_neg (by omega), hplace]
    rfl
  exhausted := by
    intro text
    simp [next?, stateAt]

/-- By looking for delimiters the tokens of a text are taken, none of which starts past its
end. -/
theorem nextFound?_takesTokens (hascii : delimiter.toNat < 128) :
    TakesTokens delimiter encode (stateAt delimiter) nextFound? where
  last := by
    intro before token hnot
    have hfound := List.idxOf?_eq_none_iff.2 (delimiter_not_mem_encode hascii hnot)
    have hwithin : size before ≤ size (before ++ token) := by
      rw [Bytes.size_append]
      omega
    have hall : (encode token).take (size (before ++ token) - size before) = encode token := by
      rw [Bytes.size_append, Nat.add_sub_cancel_left, List.take_of_length_le]
      exact Nat.le_of_eq (Bytes.length_encode token)
    unfold nextFound? stateAt find? copy
    simp only [Bytes.length_encode, drop_encode, hfound, Option.map_none, hall]
    rw [if_neg (Nat.not_lt.2 hwithin), if_pos hwithin]
    rfl
  inner := by
    intro before token after hnot
    have hfound := idxOf?_encode hascii hnot after
    have hall : (encode (token ++ delimiter :: after)).take
        (size before + size token - size before) = encode token := by
      rw [Nat.add_sub_cancel_left, Bytes.encode_append,
        List.take_left' (Bytes.length_encode token)]
    obtain ⟨hplace, hinside⟩ := size_before_delimiter hascii before token after
    unfold nextFound? stateAt find? copy
    simp only [Bytes.length_encode, drop_encode, hfound, Option.map_some, hall]
    rw [if_neg (by omega), if_pos (by omega), hplace]
    rfl
  exhausted := by
    intro text
    simp [nextFound?, stateAt]

theorem ofText_eq (text : String) (delimiter : Char) :
    ofText text delimiter = stateAt delimiter text.toList 0 :=
  congrArg (ByteSplitter.mk · _ 0) (Bytes.toList_toUTF8 text)

/-- Whichever way tokens are cut out of a text, they are read in turn. -/
theorem readTokens_eq
    {next? : ByteSplitter → Except BadSlice (Option (List UInt8 × ByteSplitter))}
    (htakes : TakesTokens delimiter encode (stateAt delimiter) next?)
    (hsize : delimiter.utf8Size = 1) (readInt : List UInt8 → Int32) (text : String)
    (reads : List TokenRead) :
    let tokens := text.toList.splitOn delimiter
    TokenRead.runEach next? readInt (.ofText text delimiter) reads =
      .ok (reads.mapIdx fun k read =>
        (tokens[k]?.map fun token => read.answer readInt (encode token),
          stateAt delimiter text.toList (size (textBefore delimiter tokens (k + 1))))) := by
  have hreads := htakes.runEach_eq hsize readInt text.toList 0 reads
  dsimp only at hreads
  simp only [Nat.zero_add] at hreads
  rw [ofText_eq]
  exact hreads

end ByteSplitter

end Bytes

/-! ## All splitters -/

/-- Whatever reads are made of a text, and with whichever splitter, the tokens between its
delimiters are read in turn. A read finds no token just if all of them have been read, and from then
on the place is one past the end of the text; until then it is where the next token starts. No token
is cut out at places that are no bounds of a slice. -/
theorem every_splitter_reads_in_turn (text : String) {delimiter : Char}
    (hascii : delimiter.toNat < 128) (reads : List TokenRead) :
    let tokens := text.toList.splitOn delimiter
    let place := fun k => size (textBefore delimiter tokens k)
    tokens.length = text.toList.count delimiter + 1 ∧
      (∀ token ∈ tokens, delimiter ∉ token) ∧
      [delimiter].intercalate tokens = text.toList ∧
      (∀ k token, tokens[k]? = some token →
        ∃ after, textBefore delimiter tokens k ++ token ++ after = text.toList) ∧
      (∀ k, tokens.length ≤ k → place k = size text.toList + 1) ∧
      (∀ k, (Splitter.mk text.toList delimiter (place k)).isExhausted = true ↔
        tokens.length ≤ k) ∧
      (∀ k, (ByteSplitter.stateAt delimiter text.toList (place k)).isExhausted = true ↔
        tokens.length ≤ k) ∧
      (∀ rules ∈ [Rules.rust, Rules.cpp],
        rules.readTokens (.ofText text.toList delimiter) reads = reads.mapIdx fun k read =>
          (tokens[k]?.map fun token => read.answer rules.readInt token,
            ⟨text.toList, delimiter, place (k + 1)⟩)) ∧
      ∀ next? ∈ [ByteSplitter.next?, ByteSplitter.nextFound?], ∀ readInt : List UInt8 → Int32,
        TokenRead.runEach next? readInt (.ofText text delimiter) reads =
          .ok (reads.mapIdx fun k read =>
            (tokens[k]?.map fun token => read.answer readInt (encode token),
              ByteSplitter.stateAt delimiter text.toList (place (k + 1)))) := by
  have hsize : delimiter.utf8Size = 1 :=
    Char.utf8Size_eq_one_iff.2 (UInt32.le_iff_toNat_le.2 (Nat.le_of_lt_succ hascii))
  refine ⟨length_splitOn _, fun token hmem => not_mem_of_mem_splitOn hmem,
    List.intercalate_splitOn delimiter, fun k token htoken => exists_textBefore_append htoken,
    fun k hk => size_textBefore_of_length_le hsize hk, ?_, ?_, ?_, ?_⟩
  · intro k
    rw [Splitter.isExhausted, decide_eq_true_eq]
    exact size_lt_size_textBefore_iff hsize
  · intro k
    rw [ByteSplitter.isExhausted, decide_eq_true_eq, ByteSplitter.stateAt, Bytes.length_encode]
    exact size_lt_size_textBefore_iff hsize
  · intro rules hrules
    have hnext : rules.next? = Splitter.next? := by
      rcases List.mem_pair.1 hrules with rfl | rfl
      · rfl
      · exact Splitter.next?_eq_nextFound?.symm
    exact Rules.readTokens_eq hnext hsize text.toList reads
  · intro next? hmem readInt
    rcases List.mem_pair.1 hmem with rfl | rfl
    · exact ByteSplitter.readTokens_eq (ByteSplitter.next?_takesTokens hascii) hsize readInt text
        reads
    · exact ByteSplitter.readTokens_eq (ByteSplitter.nextFound?_takesTokens hascii) hsize readInt
        text reads

/-- A cell with three tokens, the last of which is empty, is read five times. -/
theorem every_splitter_reads_in_turn_passed :
    '|'.toNat < 128 ∧
      Rules.cpp.readTokens (.ofText "火|7x|".toList '|')
          [.skipText, .integer, .element, .text, .skipInteger] =
        [(some .skipped, ⟨"火|7x|".toList, '|', 4⟩), (some (.integer 7), ⟨"火|7x|".toList, '|', 7⟩),
          (some (.text []), ⟨"火|7x|".toList, '|', 8⟩), (none, ⟨"火|7x|".toList, '|', 8⟩),
          (none, ⟨"火|7x|".toList, '|', 8⟩)] ∧
      (Splitter.mk "火|7x|".toList '|' 8).isExhausted = true ∧
      TokenRead.runEach ByteSplitter.next? (fun _ => 0) (.ofText "火|7x|" '|') [.text, .integer] =
        .ok [(some (.text [0xE7, 0x81, 0xAB]), ByteSplitter.stateAt '|' "火|7x|".toList 4),
          (some (.integer 0), ByteSplitter.stateAt '|' "火|7x|".toList 7)] := by
  have hascii : '|'.toNat < 128 := by decide
  obtain ⟨-, -, -, -, -, hexhausted, -, hread, -⟩ := every_splitter_reads_in_turn "火|7x|" hascii
    [.skipText, .integer, .element, .text, .skipInteger]
  obtain ⟨-, -, -, -, -, -, -, -, hbytes⟩ := every_splitter_reads_in_turn "火|7x|" hascii
    [.text, .integer]
  refine ⟨hascii, (hread .cpp (by simp)).trans rfl, ?_, (hbytes _ (by simp) _).trans rfl⟩
  exact (hexhausted 3).2 (by decide)

end TableSchema
