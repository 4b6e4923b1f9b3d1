import LineShell.Command.Dispatch
import LineShell.Expansion

namespace LineShell

structure Step where
  command : Text
  before : State
  outcome : Outcome
  after : State
  deriving DecidableEq

namespace Step

def take (registry : Registry) (state : State) (command : Text) : Step :=
  let executed := execute registry state command
  { command
    before := state
    outcome := executed.1
    after := match executed.1 with
      | .returned result => { executed.2 with lastExitCode := result.exitCode }
      | _ => executed.2 }

def endsLine (step : Step) : Bool :=
  match step.outcome with
  | .returned result => result.exitCode = unknownCommandCode
  | _ => true

def takeAll (registry : Registry) (state : State) : List Text → List Step
  | [] => []
  | command :: rest =>
      let step := take registry state command
      if step.endsLine then [step] else step :: takeAll registry step.after rest

/-- The outcome of the line that consists of the steps: their output one after the other, and the
ending of the last one. -/
def outcomeOf : List Step → Outcome
  | [] => .returned ⟨[], [], 0⟩
  | [step] => step.outcome
  | step :: rest =>
      match step.outcome with
      | .returned result => (outcomeOf rest).precededBy result
      | _ => step.outcome

def stateAfter (state : State) (steps : List Step) : State :=
  (steps.getLast?.map Step.after).getD state

end Step

def commandsOf (texts : List Text) : List Text :=
  (texts.map Text.trim).filter (!·.isEmpty)

structure LineRun where
  outcome : Outcome
  state : State
  steps : List Step

def State.rememberLine (state : State) (line : Text) : State :=
  if Text.allBlank line then state else state.remember line

def runLine (registry : Registry) (state : State) (line : Text) : LineRun :=
  match Expansion.expand state line with
  | .error refusal => ⟨.failed refusal.failure, refusal.state.rememberLine line, []⟩
  | .ok (texts, expanded) =>
      let steps := Step.takeAll registry expanded (commandsOf texts)
      ⟨Step.outcomeOf steps, (Step.stateAfter expanded steps).rememberLine line, steps⟩

end LineShell
