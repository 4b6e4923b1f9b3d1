import LineShell.State

namespace LineShell

structure Result where
  stdout : Text
  stderr : Text
  exitCode : Int
  deriving DecidableEq, Repr

namespace Result

def success (stdout : Text) : Result := ⟨stdout, [], 0⟩

def failure (stderr : Text) (exitCode : Int) : Result := ⟨[], stderr, exitCode⟩

def precededBy (result earlier : Result) : Result :=
  ⟨earlier.stdout ++ result.stdout, earlier.stderr ++ result.stderr, result.exitCode⟩

end Result

inductive Failure
  | tooManyDigits
  | symbolNotShown (name : SymbolName)
  | blankCommand
  | lostCommand
  | unencodableName (name : Text)
  deriving DecidableEq, Repr

inductive Outcome
  | returned (result : Result)
  | exited (result : Result)
  | failed (failure : Failure)
  deriving DecidableEq, Repr

/-- The outcome with the output of an earlier result in front; a failure has no output. -/
def Outcome.precededBy (earlier : Result) : Outcome → Outcome
  | .returned result => .returned (result.precededBy earlier)
  | .exited result => .exited (result.precededBy earlier)
  | .failed failure => .failed failure

inductive Change
  | nothing
  | assign (name value : Text)
  | setSymbol (name : SymbolName) (symbol : Text)
  deriving DecidableEq, Repr

def State.apply (state : State) : Change → State
  | .nothing => state
  | .assign name value => { state with store := state.store.assign name value }
  | .setSymbol name symbol => state.setSymbol name symbol

structure Effect where
  outcome : Outcome
  change : Change
  deriving DecidableEq, Repr

namespace Effect

def returning (result : Result) : Effect := ⟨.returned result, .nothing⟩

def failing (failure : Failure) : Effect := ⟨.failed failure, .nothing⟩

end Effect

end LineShell
