import LineShell.Proofs.Brace.Origin
import LineShell.Proofs.PlainLine

/-!
A line that stands for several commands. They are executed one after the other up to the first that
exits, is unknown or fails; the line does what these commands do in this order, with their output
put together, and the others do nothing.
-/

namespace LineShell

def Outcome.result? : Outcome → Option Result
  | .returned result => some result
  | .exited result => some result
  | .failed _ => none

def Outcome.failure? : Outcome → Option Failure
  | .failed failure => some failure
  | _ => none

def Result.total (results : List Result) : Result :=
  ⟨results.flatMap Result.stdout, results.flatMap Result.stderr,
    (results.getLast?.map Result.exitCode).getD 0⟩

namespace Builtin

end Builtin

theorem Store.ShowsAll.apply {state : State} (shows : state.store.ShowsAll) (change : Change) :
    (state.apply change).store.ShowsAll := by
  cases change with
  | nothing => exact shows
  | assign name value => exact shows.assign name value
  | setSymbol name symbol => exact shows.assign name.shownIn symbol

namespace Step

/-- Holds of a step that ends its line: its command exits, is unknown or fails. -/
def Ends (step : Step) : Prop :=
  match step.outcome with
  | .returned result => result.exitCode = unknownCommandCode
  | .exited _ => True
  | .failed _ => True

def exits (step : Step) : Bool :=
  match step.outcome with
  | .exited _ => true
  | _ => false

def returnedCode? (step : Step) : Option Int :=
  match step.outcome with
  | .returned result => some result.exitCode
  | _ => none

theorem lastExitCode_take (registry : Registry) (state : State) (command : Text) :
    (take registry state command).after.lastExitCode =
      (take registry state command).returnedCode?.getD state.lastExitCode := by
  have unrecorded : (execute registry state command).2.lastExitCode = state.lastExitCode := by
    change (state.apply _).lastExitCode = _
    cases (effectOf registry state command).change <;> rfl
  unfold take returnedCode?
  dsimp only
  cases (execute registry state command).1 with
  | returned result => rfl
  | exited result => exact unrecorded
  | failed failure => exact unrecorded

theorem lastExitCode_stateAfter {registry : Registry} {state : State} {steps : List Step}
    (follow : Follow registry state steps) :
    (stateAfter state steps).lastExitCode =
      (steps.filterMap returnedCode?).getLast?.getD state.lastExitCode := by
  induction steps generalizing state with
  | nil => rfl
  | cons step rest ih =>
      obtain ⟨taken, others⟩ := follow_cons_iff.mp follow
      have here := lastExitCode_take registry state step.command
      rw [← taken] at here
      rw [stateAfter_cons, ih others, here, List.filterMap_cons]
      cases step.returnedCode? with
      | none => rfl
      | some code =>
          rw [List.getLast?_cons]
          rfl

end Step

/-- Holds of the run of a line that is expanded in `next` and executes the commands `ran`, but not
those in `skipped`. -/
structure LineRun.Executes (run : LineRun) (registry : Registry) (line : Text) (next : State)
    (ran skipped : List Text) : Prop where
  commands : run.steps.map Step.command = ran
  follow : Step.Follow registry next run.steps
  early : ∀ step ∈ run.steps.dropLast, ¬step.Ends
  ended : skipped = [] ∨ ∃ last, run.steps.getLast? = some last ∧ last.Ends
  state : run.state = (Step.stateAfter next run.steps).rememberLine line
  /-- The output of all commands and the exit code of the last one, as an exit if there was one. -/
  outcome : run.outcome =
    match run.steps.findSome? (·.outcome.failure?) with
    | some failure => .failed failure
    | none => (if run.steps.any Step.exits then Outcome.exited else Outcome.returned)
        (Result.total (run.steps.filterMap (·.outcome.result?)))
  fails : ∀ step ∈ run.steps, ∀ failure, step.outcome = .failed failure →
    ∃ name, failure = .unencodableName name ∧ Text.bytes? name = none ∧
      step.FailsAtName registry name
  lastExitCode : run.state.lastExitCode =
    (run.steps.filterMap Step.returnedCode?).getLast?.getD next.lastExitCode
  history : ∀ step ∈ run.steps, step.before.history = next.history

theorem State.lastExitCode_rememberLine (state : State) (line : Text) :
    (state.rememberLine line).lastExitCode = state.lastExitCode := by
  unfold rememberLine
  split <;> rfl

end LineShell
