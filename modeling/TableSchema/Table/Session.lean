import TableSchema.Table.CppReading

/-!
# Sessions with a table

A table is read into and looked into in any order. Each language has tables of its own: a Rust table
is what it holds, and assigns the rows that were read to it at the end of a reading, which an error
leaves before; a C++ table exchanges its rows for those that were read, and tells its caller of an
error in a text that it is given.
-/

namespace TableSchema

/-- What is done with a table. -/
inductive SessionStep where
  /-- A text is read into it. -/
  | read (text : String)
  /-- A key is looked up in it. -/
  | find (key : Atom)
deriving DecidableEq, Repr

/-- What each step of a session gives, with what there is after it. -/
def Session.run {σ α : Type} (step : SessionStep → StateM σ α) (steps : List SessionStep)
    (start : σ) : List (α × σ) :=
  let replies := steps.mapM fun next => do
    let answer ← step next
    return (answer, ← get)
  (replies.run start).1

namespace RustTable

/-- What a Rust table gives. -/
inductive Answer where
  | parsed (result : Except (Interruption TableFault) Unit)
  | found (found? : Option Found)

/-- Reads a text into the table. -/
def parse (layout : Layout) (text : String) :
    ExceptT (Interruption TableFault) (StateM Content) Unit := do
  let rows ← liftExcept (readTable .rust layout text)
  set rows

def step (layout : Layout) : SessionStep → StateM Content Answer
  | .read text => return .parsed (← (parse layout text).run)
  | .find key => return .found ((← get).get? key)

end RustTable

/-- The rows of a C++ table, and the text for errors of its caller. -/
structure CppTable where
  rows : Content
  errorInfo : CppReading.ErrorText

namespace CppTable

/-- What a C++ table gives. -/
inductive Answer where
  | parsed (succeeded? : Option Bool) (errorInfo : CppReading.ErrorText)
  | found (found? : Option Found)

/-- Exchanges the rows of a table for others. -/
def swapRows (others : Content) : StateM CppTable Content :=
  modifyGet fun table => (table.rows, { table with rows := others })

def setErrorInfo (text : CppReading.ErrorText) : StateM CppTable Unit :=
  modify fun table => { table with errorInfo := text }

/-- Reads a text into the table and says whether it could. What is said is open once a cell is asked
for that is not there. -/
def parse (layout : Layout) (text : String) : StateM CppTable (Option Bool) := do
  match CppReading.readTable layout text with
  | .error .outOfRange => return none
  | .error (.fault info) =>
      setErrorInfo info
      return some false
  | .ok rows =>
      let _ ← swapRows rows
      setErrorInfo []
      return some true

def step (layout : Layout) : SessionStep → StateM CppTable Answer
  | .read text => do
      let succeeded? ← parse layout text
      return .parsed succeeded? (← get).errorInfo
  | .find key => return .found ((← get).rows.get? key)

end CppTable

end TableSchema
