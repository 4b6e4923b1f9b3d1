import LineShell.Arithmetic.Expansion
import LineShell.Brace.Expansion
import LineShell.Command.Outcome
import LineShell.Reference

namespace LineShell.Expansion

def expandOne (history : List Text) (store : Store) (line : Text) : Text × Store :=
  let replaced := Reference.replace (History.resolve history line) store
  (Escape.strip (Arithmetic.reduce replaced.1), replaced.2)

def expandEach (history : List Text) (store : Store) : List Text → List Text × Store
  | [] => ([], store)
  | line :: rest =>
      let first := expandOne history store line
      let others := expandEach history first.2 rest
      (first.1 :: others.1, others.2)

def lookupsEach (history : List Text) (store : Store) : List Text → List (Text × Store)
  | [] => []
  | line :: rest =>
      Reference.lookups (History.resolve history line) store ++
        lookupsEach history (expandOne history store line).2 rest

/-- The first name that cannot be looked up, with the variables at that time. -/
def refused? (history : List Text) (store : Store) (lines : List Text) : Option (Text × Store) :=
  (lookupsEach history store lines).find? fun asked => asked.2.refuses asked.1

/-- Why a line is not expanded, and the state that is left. -/
structure Refusal where
  failure : Failure
  state : State
  deriving DecidableEq

def expandAll (state : State) (lines : List Text) : Except Refusal (List Text × State) :=
  match refused? state.history state.store lines with
  | some (name, store) => .error ⟨.unencodableName name, { state with store }⟩
  | none =>
      let expanded := expandEach state.history state.store lines
      .ok (expanded.1, { state with store := expanded.2 })

def expand (state : State) (line : Text) : Except Refusal (List Text × State) :=
  match Brace.expand line with
  | .error _ => .error ⟨.tooManyDigits, state⟩
  | .ok lines => expandAll state lines

end LineShell.Expansion
