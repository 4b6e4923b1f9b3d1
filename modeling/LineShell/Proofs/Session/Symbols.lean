import Mathlib.Data.List.Induction
import LineShell.Proofs.Session.Course

/-!
When the prompt symbols and the variables that show them agree. The `symbol` builtin writes both, an
expansion neither; an assignment writes the variable alone. So they part exactly where an assignment
binds the variable to something else than the symbol in force and nothing behind it in the line
writes either of them again.
-/

namespace LineShell

namespace Change

def Concerns (name : SymbolName) : Change → Prop
  | .nothing => False
  | .assign variableName _ => variableName = name.shownIn
  | .setSymbol other _ => other = name

/-- Holds of a change that binds the variable of a symbol to something else than the symbol. -/
def Parts (name : SymbolName) (state : State) : Change → Prop
  | .assign variableName value => variableName = name.shownIn ∧ value ≠ state.symbols.get name
  | _ => False

end Change

namespace State

/-- Behind a change a symbol agrees with its variable if the change does not part them and writes
one of them or finds them in agreement. -/
theorem mirrorsAt_apply_iff (state : State) (change : Change) (name : SymbolName) :
    (state.apply change).MirrorsAt name ↔
      ¬change.Parts name state ∧ (change.Concerns name ∨ state.MirrorsAt name) := by
  cases change with
  | nothing => simp [apply, Change.Parts, Change.Concerns]
  | assign variableName value =>
      rw [apply, mirrorsAt_assign]
      by_cases shown : name.shownIn = variableName
      · simp [Change.Parts, Change.Concerns, shown]
      · simp [Change.Parts, Change.Concerns, shown, Ne.symm shown]
  | setSymbol other symbol =>
      by_cases same : other = name
      · subst same
        simp [apply, Change.Parts, Change.Concerns, mirrorsAt_setSymbol_self]
      · rw [apply, mirrorsAt_setSymbol_of_ne (Ne.symm same)]
        simp [Change.Parts, Change.Concerns, same]

theorem mirrorsAt_rememberLine (state : State) (line : Text) (name : SymbolName) :
    (state.rememberLine line).MirrorsAt name ↔ state.MirrorsAt name := by
  unfold rememberLine
  split <;> exact Iff.rfl

theorem mirrorsAt_of_keeps {state next : State} {name : SymbolName}
    (frame : next = { state with store := next.store }) (kept : state.store.Keeps next.store)
    (mirrors : state.MirrorsAt name) : next.MirrorsAt name := by
  have symbols : next.symbols = state.symbols := by rw [frame]
  rw [MirrorsAt, symbols]
  exact kept.bound mirrors

end State

namespace Step

def change (registry : Registry) (step : Step) : Change :=
  (effectOf registry step.before step.command).change

/-- Holds of steps of which one parts a symbol from its variable and none behind it writes either.
-/
def Part (registry : Registry) (name : SymbolName) (steps : List Step) : Prop :=
  ∃ earlier step later, steps = earlier ++ step :: later ∧
    (step.change registry).Parts name step.before ∧
    ∀ other ∈ later, ¬(other.change registry).Concerns name

theorem not_part_nil (registry : Registry) (name : SymbolName) : ¬Part registry name [] := by
  rintro ⟨earlier, step, later, split, -⟩
  exact List.append_ne_nil_of_right_ne_nil earlier (List.cons_ne_nil step later) split.symm

theorem part_concat_iff (registry : Registry) (name : SymbolName) (steps : List Step)
    (last : Step) :
    Part registry name (steps ++ [last]) ↔
      (last.change registry).Parts name last.before ∨
        (¬(last.change registry).Concerns name ∧ Part registry name steps) := by
  constructor
  · rintro ⟨earlier, step, later, split, parts, quiet⟩
    rcases List.eq_nil_or_concat later with rfl | ⟨between, final, rfl⟩
    · obtain ⟨-, same⟩ := List.append_inj' split rfl
      rw [List.singleton_inj.mp same]
      exact Or.inl parts
    · rw [List.concat_eq_append] at split quiet
      rw [← List.cons_append, ← List.append_assoc] at split
      obtain ⟨rfl, same⟩ := List.append_inj' split rfl
      rw [List.singleton_inj.mp same]
      obtain ⟨quietBetween, quietFinal⟩ := List.forall_mem_append.mp quiet
      exact Or.inr
        ⟨quietFinal final (List.mem_singleton_self final), earlier, step, between, rfl, parts,
        quietBetween⟩
  · rintro (parts | ⟨quiet, earlier, step, later, rfl, parts, quietLater⟩)
    · exact ⟨steps, last, [], rfl, parts, fun _ member => (List.not_mem_nil member).elim⟩
    · refine ⟨earlier, step, later ++ [last], by simp, parts, ?_⟩
      exact List.forall_mem_append.mpr ⟨quietLater, List.forall_mem_singleton.mpr quiet⟩

theorem mirrorsAt_take_iff (registry : Registry) (state : State) (command : Text)
    (name : SymbolName) :
    (take registry state command).after.MirrorsAt name ↔
      ¬((take registry state command).change registry).Parts name state ∧
        (((take registry state command).change registry).Concerns name ∨
          state.MirrorsAt name) := by
  obtain ⟨code, after, -⟩ := after_take registry state command
  rw [after]
  exact state.mirrorsAt_apply_iff _ name

theorem mirrorsAt_stateAfter_iff {registry : Registry} {name : SymbolName} {state : State}
    {steps : List Step} (follow : Follow registry state steps) (mirrors : state.MirrorsAt name) :
    (stateAfter state steps).MirrorsAt name ↔ ¬Part registry name steps := by
  -- From the end: the last step decides, unless it writes neither the symbol nor its variable.
  induction steps using List.reverseRecOn with
  | nil => exact iff_of_true mirrors (not_part_nil registry name)
  | append_singleton steps last ih =>
      obtain ⟨earlier, taken⟩ := follow.of_concat
      have decided := mirrorsAt_take_iff registry (stateAfter state steps) last.command name
      have before : last.before = stateAfter state steps := congrArg Step.before taken
      rw [← taken, ih earlier] at decided
      rw [stateAfter_concat, part_concat_iff, before, decided, not_or, not_and_or, not_not]

end Step

theorem mirrorsAt_runLine_iff (registry : Registry) {state : State} (line : Text)
    {name : SymbolName} (mirrors : state.MirrorsAt name) :
    (runLine registry state line).state.MirrorsAt name ↔
      ¬Step.Part registry name (runLine registry state line).steps := by
  unfold runLine
  cases expansion : Expansion.expand state line with
  | error refusal =>
      obtain ⟨frame, kept⟩ := Expansion.frame_of_refused expansion
      have left := State.mirrorsAt_of_keeps frame kept mirrors
      dsimp only
      rw [State.mirrorsAt_rememberLine]
      exact iff_of_true left (Step.not_part_nil registry name)
  | ok expanded =>
      obtain ⟨texts, next⟩ := expanded
      have followed := Step.follow_takeAll registry next (commandsOf texts)
      obtain ⟨frame, kept⟩ := Expansion.frame_of_expand expansion
      have mirrorsNext := State.mirrorsAt_of_keeps frame kept mirrors
      dsimp only
      rw [State.mirrorsAt_rememberLine, Step.mirrorsAt_stateAfter_iff followed mirrorsNext]

namespace Session

def Parts (session : Session) (name : SymbolName) : Action → Prop
  | .run line =>
      Step.Part session.settings.registry name
        (runLine session.settings.registry session.state line).steps
  | .reset => False
  | .set variableName value => (Change.assign variableName value).Parts name session.state

theorem mirrorsAt_act_iff {session : Session} {name : SymbolName}
    (mirrors : session.state.MirrorsAt name) (action : Action) :
    (session.act action).state.MirrorsAt name ↔ ¬session.Parts name action := by
  cases action with
  | run line =>
      change (session.run line).2.state.MirrorsAt name ↔ _
      rw [state_run]
      exact mirrorsAt_runLine_iff session.settings.registry line mirrors
  | reset =>
      have renewed : session.reset.state.Mirrors := State.mirrors_start _ _ _ _ _
      exact iff_of_true (renewed name) not_false
  | set variableName value =>
      have decided := session.state.mirrorsAt_apply_iff (.assign variableName value) name
      rwa [and_iff_left (Or.inr mirrors)] at decided

/-- The symbols of a session agree with their variables all the time exactly if none of its actions,
in the session that it is done with, parts a symbol from its variable. -/
theorem mirrors_throughout_iff (settings : Settings) (surroundings : Surroundings)
    (actions : List Action) :
    (∀ reached, reached <+: actions →
        ((start settings surroundings).after reached).state.Mirrors) ↔
      ∀ reached action name, reached ++ [action] <+: actions →
        ¬((start settings surroundings).after reached).Parts name action := by
  induction actions using List.reverseRecOn with
  | nil =>
      constructor
      · intro _ reached action name lead
        exact absurd (List.prefix_nil.mp lead) (by simp)
      · intro _ reached lead
        rw [List.prefix_nil.mp lead]
        exact State.mirrors_start _ _ _ _ _
  | append_singleton actions last ih =>
      constructor
      · intro mirrors reached action name lead
        have before := mirrors reached ((List.prefix_append _ _).trans lead)
        have behind := mirrors (reached ++ [action]) lead
        rw [after_concat] at behind
        exact (mirrorsAt_act_iff (before name) action).mp (behind name)
      · intro together reached lead
        have earlier := ih.mpr fun reached action name inside =>
          together reached action name (inside.trans (List.prefix_append _ _))
        rcases List.prefix_concat_iff.mp lead with rfl | inside
        · intro name
          rw [after_concat]
          refine (mirrorsAt_act_iff (earlier actions (List.prefix_refl _) name) last).mpr ?_
          exact together actions last name (List.prefix_refl _)
        · exact earlier reached inside

/-- An assignment to the variable leaves the symbol as it was. -/
theorem symbol_parted_by_assignment :
    ¬∀ (settings : Settings) (surroundings : Surroundings) (lines : List Text),
      ((start settings surroundings).afterLines lines).state.Mirrors := by
  intro claimed
  have parted : ¬((start Settings.standard ⟨Bindings.empty, ['/']⟩).afterLines
      ["PROMPT=x".text]).state.MirrorsAt .prompt := by
    unfold State.MirrorsAt
    decide +kernel
  exact parted (claimed _ _ _ _)

end Session

end LineShell
