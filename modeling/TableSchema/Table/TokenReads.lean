import TableSchema.Table.Rules

/-!
# Reads of tokens

The tokens of a cell are read one after the other, as texts or as integers, or passed over. All ways
to read share the place up to which the cell has been read. A read for which no token is left says
so and changes nothing.
-/

namespace TableSchema

/-- A way to read a token. -/
inductive TokenRead where
  /-- As a text. -/
  | text
  /-- As an integer. -/
  | integer
  /-- As the next element of an iteration, which is a text. -/
  | element
  /-- As a text that nobody takes. -/
  | skipText
  /-- As an integer that nobody takes. -/
  | skipInteger
deriving DecidableEq, Repr

/-- What a read delivers of a token. -/
inductive TokenAnswer (τ : Type) where
  | text (token : τ)
  | integer (n : Int32)
  /-- There was a token. -/
  | skipped
deriving DecidableEq, Repr

namespace TokenRead

variable {m : Type → Type} [Monad m] {σ τ : Type} (next? : σ → m (Option (τ × σ)))
  (readInt : τ → Int32)

def answer (token : τ) : TokenRead → TokenAnswer τ
  | .text | .element => .text token
  | .integer => .integer (readInt token)
  | .skipText | .skipInteger => .skipped

/-- What a read delivers, if a token is left, and the state after it. -/
def run (s : σ) (read : TokenRead) : m (Option (TokenAnswer τ) × σ) := do
  match ← next? s with
  | none => return (none, s)
  | some (token, t) => return (some (read.answer readInt token), t)

/-- What reads in a row deliver, each with the state after it. -/
def runEach : σ → List TokenRead → m (List (Option (TokenAnswer τ) × σ))
  | _, [] => return []
  | s, read :: rest => do
      let (delivered, t) ← run next? readInt s read
      return (delivered, t) :: (← runEach t rest)

end TokenRead

/-- What reads of a cell deliver, each with the splitter after it. -/
def Rules.readTokens (rules : Rules) (s : Splitter) (reads : List TokenRead) :
    List (Option (TokenAnswer (List Char)) × Splitter) :=
  Id.run (TokenRead.runEach (fun s => pure (rules.next? s)) rules.readInt s reads)

end TableSchema
