import LineShell.Execution
import LineShell.Proofs.Command.Effect

/-!
The steps of a line. Each one executes a command in the state that the step before it left, so what
a single step keeps is kept by the line; behind the steps the line itself enters the history.
-/

namespace LineShell

def Outcome.recordedIn (state : State) : Outcome → State
  | .returned result => { state with lastExitCode := result.exitCode }
  | .exited _ => state
  | .failed _ => state

namespace Step

/-- Holds of a step that failed because its command calls `env` with a name that cannot be looked
up. -/
structure FailsAtName (registry : Registry) (step : Step) (name : Text) : Prop where
  outcome : step.outcome = .failed (.unencodableName name)
  calls : CallsEnv registry step.command name
  refused : step.before.store.refuses name = true

/-- A step makes the change of its command, and records an exit code if the command returned. -/
theorem after_take (registry : Registry) (state : State) (command : Text) :
    ∃ code, (take registry state command).after =
        { state.apply (effectOf registry state command).change with lastExitCode := code } ∧
      (code = state.lastExitCode ∨
        ∃ result, (effectOf registry state command).outcome = .returned result ∧
          code = result.exitCode) := by
  have unrecorded : (state.apply (effectOf registry state command).change).lastExitCode =
      state.lastExitCode := by
    cases (effectOf registry state command).change <;> rfl
  cases ended : (effectOf registry state command).outcome with
  | returned result =>
      refine ⟨result.exitCode, ?_, Or.inr ⟨result, rfl, rfl⟩⟩
      simp only [take, execute, ended]
  | exited result =>
      refine ⟨state.lastExitCode, ?_, Or.inl rfl⟩
      simp only [take, execute, ended, ← unrecorded]
  | failed failure =>
      refine ⟨state.lastExitCode, ?_, Or.inl rfl⟩
      simp only [take, execute, ended, ← unrecorded]

theorem history_take (registry : Registry) (state : State) (command : Text) :
    (take registry state command).after.history = state.history := by
  obtain ⟨code, after, -⟩ := after_take registry state command
  rw [after]
  exact state.history_apply _

/-- Holds of a step that is the execution of its command, with the exit code of a command that
returned recorded. -/
structure Executes (registry : Registry) (step : Step) : Prop where
  outcome : step.outcome = (execute registry step.before step.command).1
  after : step.after = step.outcome.recordedIn (execute registry step.before step.command).2

theorem executes_take (registry : Registry) (state : State) (command : Text) :
    (take registry state command).Executes registry := by
  refine ⟨rfl, ?_⟩
  unfold take Outcome.recordedIn
  dsimp only
  cases (execute registry state command).1 <;> rfl

theorem Executes.eq_take {registry : Registry} {step : Step} (executes : step.Executes registry) :
    step = take registry step.before step.command := by
  have taken := executes_take registry step.before step.command
  obtain ⟨command, before, outcome, after⟩ := step
  have ended : outcome = (take registry before command).outcome := executes.outcome
  have left : after = outcome.recordedIn (execute registry before command).2 := executes.after
  subst ended
  rw [left]
  exact congrArg (Step.mk command before _) taken.after.symm

/-- Holds of steps each of which executes its command in the state that the one before it left. -/
inductive Follow (registry : Registry) : State → List Step → Prop
  | nil (state : State) : Follow registry state []
  | cons (step : Step) (rest : List Step) (executes : step.Executes registry)
      (others : Follow registry step.after rest) : Follow registry step.before (step :: rest)

theorem follow_cons_iff {registry : Registry} {state : State} {step : Step} {rest : List Step} :
    Follow registry state (step :: rest) ↔
      step = take registry state step.command ∧ Follow registry step.after rest := by
  constructor
  · rintro ⟨⟩
    next executes others => exact ⟨executes.eq_take, others⟩
  · rintro ⟨taken, others⟩
    have executes : step.Executes registry := by
      rw [taken]
      exact executes_take registry state step.command
    have started : step.before = state := by rw [taken]; rfl
    rw [← started]
    exact .cons step rest executes others

theorem follow_takeAll (registry : Registry) (state : State) (commands : List Text) :
    Follow registry state (takeAll registry state commands) := by
  induction commands generalizing state with
  | nil => exact .nil state
  | cons command rest ih =>
      rw [takeAll]
      split
      · exact follow_cons_iff.mpr ⟨rfl, .nil _⟩
      · exact follow_cons_iff.mpr ⟨rfl, ih _⟩

@[simp] theorem stateAfter_cons (state : State) (step : Step) (rest : List Step) :
    stateAfter state (step :: rest) = stateAfter step.after rest := by
  cases rest with
  | nil => rfl
  | cons next rest =>
      unfold stateAfter
      rw [List.getLast?_cons_cons, List.getLast?_cons]
      rfl

@[simp] theorem stateAfter_concat (state : State) (steps : List Step) (last : Step) :
    stateAfter state (steps ++ [last]) = last.after := by
  rw [stateAfter, List.getLast?_concat]
  rfl

theorem Follow.of_concat {registry : Registry} {state : State} {steps : List Step} {last : Step}
    (follow : Follow registry state (steps ++ [last])) :
    Follow registry state steps ∧
      last = take registry (stateAfter state steps) last.command := by
  induction steps generalizing state with
  | nil => exact ⟨.nil state, (follow_cons_iff.mp follow).1⟩
  | cons first rest ih =>
      obtain ⟨here, behind⟩ := follow_cons_iff.mp follow
      obtain ⟨earlier, taken⟩ := ih behind
      rw [stateAfter_cons]
      exact ⟨follow_cons_iff.mpr ⟨here, earlier⟩, taken⟩

theorem Follow.invariant {registry : Registry} {P : State → Prop}
    (keeps : ∀ state command, P state → P (take registry state command).after)
    {state : State} {steps : List Step} (follow : Follow registry state steps)
    (atStart : P state) : P (stateAfter state steps) := by
  induction steps generalizing state with
  | nil => exact atStart
  | cons step rest ih =>
      obtain ⟨taken, others⟩ := follow_cons_iff.mp follow
      rw [stateAfter_cons]
      refine ih others ?_
      rw [taken]
      exact keeps state step.command atStart

theorem history_stateAfter {registry : Registry} {state : State} {steps : List Step}
    (follow : Follow registry state steps) : (stateAfter state steps).history = state.history :=
  follow.invariant (P := fun reached => reached.history = state.history)
    (fun reached command same => (history_take registry reached command).trans same) rfl

theorem outcomeOf_cons_cons (step next : Step) (rest : List Step) :
    outcomeOf (step :: next :: rest) =
      match step.outcome with
      | .returned result => (outcomeOf (next :: rest)).precededBy result
      | _ => step.outcome :=
  rfl

end Step

theorem State.Sound.rememberLine {state : State} (sound : state.Sound) (line : Text) :
    (state.rememberLine line).Sound := by
  unfold State.rememberLine
  split
  · exact sound
  · exact ⟨sound.shows, sound.exitCode⟩

theorem State.history_rememberLine (state : State) (line : Text) :
    (state.rememberLine line).history =
      if Text.allBlank line then state.history else History.add state.history line := by
  unfold State.rememberLine
  split <;> rfl

/-- Whatever becomes of a line, it enters the history of the state that it was run in, unless it is
blank; its commands and its expansion leave the history alone. -/
theorem history_runLine (registry : Registry) (state : State) (line : Text) :
    (runLine registry state line).state.history =
      if Text.allBlank line then state.history else History.add state.history line := by
  unfold runLine
  cases expansion : Expansion.expand state line with
  | error refusal =>
      dsimp only
      rw [State.history_rememberLine, (Expansion.frame_of_refused expansion).1]
  | ok expanded =>
      obtain ⟨texts, next⟩ := expanded
      have expandedHistory : next.history = state.history := by
        rw [(Expansion.frame_of_expand expansion).1]
      have followed := Step.follow_takeAll registry next (commandsOf texts)
      dsimp only
      rw [State.history_rememberLine, Step.history_stateAfter followed, expandedHistory]

end LineShell
