import LineShell.Proofs.Command.Effect

/-!
What a command line leaves alone. Whatever it is, it keeps the history, the directory and the exit
code; it binds one variable at most, sets a symbol only together with the variable that shows it,
and changes nothing unless it succeeds.
-/

namespace LineShell

namespace State

/-- Holds of states that differ in nothing but their own variables and their symbols. -/
structure Framed (before after : State) : Prop where
  history : after.history = before.history
  directory : after.directory = before.directory
  lastExitCode : after.lastExitCode = before.lastExitCode
  inherited : after.store.inherited = before.store.inherited

/-- Holds of states whose own variables agree but for one, which has the value in the second. -/
structure Rebinds (before after : State) (name value : Text) : Prop where
  bound : after.store.own.get? name = some value
  others : ∀ other, other ≠ name → after.store.own.get? other = before.store.own.get? other

theorem framed_apply (state : State) (change : Change) : state.Framed (state.apply change) := by
  cases change <;> exact ⟨rfl, rfl, rfl, rfl⟩

theorem rebinds_of_assign {state after : State} {name value : Text}
    (assigned : after.store = state.store.assign name value) : state.Rebinds after name value := by
  constructor
  · rw [assigned, Store.own_get?_assign, if_pos rfl]
  · intro other different
    rw [assigned, Store.own_get?_assign, if_neg different]

end State

variable {registry : Registry} {state : State} {line : Text}

theorem execute_of_assigns (state : State) {name value : Text}
    (assigns : Assigns registry line name value) :
    execute registry state line =
      (.returned (.success []), { state with store := state.store.assign name value }) := by
  rw [execute, effectOf_of_assigns assigns]
  rfl

theorem execute_of_setsSymbol (registry : Registry) {name : SymbolName} {c : CodePoint}
    {shown : Text}
    (sets : SetsSymbol line name c) (bound : state.store.own.get? name.shownIn = some shown) :
    ∃ output, execute registry state line =
      (.returned (.success output), state.setSymbol name [c]) := by
  rw [execute, effectOf_of_setsSymbol sets, Builtin.changeSymbol, bound]
  exact ⟨_, rfl⟩

theorem execute_of_setsSymbol_of_unbound (registry : Registry) {name : SymbolName} {c : CodePoint}
    (sets : SetsSymbol line name c) (unbound : state.store.own.get? name.shownIn = none) :
    execute registry state line = (.failed (.symbolNotShown name), state) := by
  rw [execute, effectOf_of_setsSymbol sets, Builtin.changeSymbol, unbound]
  rfl

/-- The state behind a command line: as it was, or with one variable bound by an assignment, or with
one symbol set by a call of `symbol`. -/
theorem execute_cases (registry : Registry) (state : State) (line : Text) :
    (execute registry state line).2 = state ∨
      (∃ name value, Assigns registry line name value ∧ execute registry state line =
        (.returned (.success []), { state with store := state.store.assign name value })) ∨
      ∃ name c output, SetsSymbol line name c ∧ execute registry state line =
        (.returned (.success output), state.setSymbol name [c]) := by
  rcases change_effectOf registry state line with unchanged | ⟨name, value, assigns⟩ |
    ⟨name, c, sets⟩
  · refine Or.inl ?_
    rw [execute]
    dsimp only
    rw [unchanged]
    rfl
  · exact Or.inr (Or.inl ⟨name, value, assigns, execute_of_assigns state assigns⟩)
  · cases shown : state.store.own.get? name.shownIn with
    | none =>
        refine Or.inl ?_
        rw [execute_of_setsSymbol_of_unbound registry sets shown]
    | some old =>
        obtain ⟨output, executed⟩ := execute_of_setsSymbol registry sets shown
        exact Or.inr (Or.inr ⟨name, c, output, sets, executed⟩)

theorem rebinds_of_assigns (state : State) {name value : Text}
    (assigns : Assigns registry line name value) :
    state.Rebinds (execute registry state line).2 name value ∧
      (execute registry state line).2.symbols = state.symbols := by
  rw [execute_of_assigns state assigns]
  exact ⟨State.rebinds_of_assign rfl, rfl⟩

theorem State.rebinds_setSymbol (state : State) (name : SymbolName) (symbol : Text) :
    state.Rebinds (state.setSymbol name symbol) name.shownIn symbol ∧
      (state.setSymbol name symbol).symbols = state.symbols.set name symbol :=
  ⟨State.rebinds_of_assign rfl, rfl⟩

theorem exists_setsSymbol_of_execute
    (changed : (execute registry state line).2.symbols ≠ state.symbols) :
    ∃ name c, SetsSymbol line name c := by
  rcases execute_cases registry state line with same | ⟨name, value, assigns, -⟩ |
    ⟨name, c, -, sets, -⟩
  · exact absurd (congrArg State.symbols same) changed
  · exact absurd (rebinds_of_assigns state assigns).2 changed
  · exact ⟨name, c, sets⟩

theorem execute_of_unsuccessful
    (unsuccessful : ∀ result, (execute registry state line).1 = .returned result →
      result.exitCode ≠ 0) : (execute registry state line).2 = state := by
  rcases execute_cases registry state line with same | ⟨name, value, -, executed⟩ |
    ⟨name, c, output, -, executed⟩
  · exact same
  · exact absurd rfl (unsuccessful _ (congrArg Prod.fst executed))
  · exact absurd rfl (unsuccessful _ (congrArg Prod.fst executed))

/-- A command line keeps the history, the directory, the exit code and what was inherited. It binds
one variable at most, to the value of an assignment or to the new symbol of a call of `symbol`, and
only the latter sets a symbol; without a result of exit code zero nothing has changed. -/
theorem execute_changes_one_variable (registry : Registry) (state : State) (line : Text) :
    let outcome := (execute registry state line).1
    let after := (execute registry state line).2
    state.Framed after ∧
      (after = state ∨
        (∃ name value, Assigns registry line name value ∧
          state.Rebinds after name value ∧ after.symbols = state.symbols) ∨
        ∃ name c, SetsSymbol line name c ∧
          state.Rebinds after name.shownIn [c] ∧ after.symbols = state.symbols.set name [c]) ∧
      (∀ name value, Assigns registry line name value →
        outcome = .returned (.success []) ∧
          state.Rebinds after name value ∧ after.symbols = state.symbols) ∧
      (∀ name c, SetsSymbol line name c →
        if (state.store.own.get? name.shownIn).isSome then
          (∃ output, outcome = .returned (.success output)) ∧
            state.Rebinds after name.shownIn [c] ∧ after.symbols = state.symbols.set name [c]
        else outcome = .failed (.symbolNotShown name)) ∧
      (after.symbols ≠ state.symbols → ∃ name c, SetsSymbol line name c) ∧
      ((∀ result, outcome = .returned result → result.exitCode ≠ 0) → after = state) := by
  intro outcome after
  refine ⟨state.framed_apply _, ?_, ?_, ?_, exists_setsSymbol_of_execute, execute_of_unsuccessful⟩
  · rcases execute_cases registry state line with same | ⟨name, value, assigns, -⟩ |
      ⟨name, c, output, sets, executed⟩
    · exact Or.inl same
    · exact Or.inr (Or.inl ⟨name, value, assigns, rebinds_of_assigns state assigns⟩)
    · refine Or.inr (Or.inr ⟨name, c, sets, ?_⟩)
      rw [show after = state.setSymbol name [c] from congrArg Prod.snd executed]
      exact state.rebinds_setSymbol name [c]
  · intro name value assigns
    exact ⟨congrArg Prod.fst (execute_of_assigns state assigns), rebinds_of_assigns state assigns⟩
  · intro name c sets
    split
    · next bound =>
        obtain ⟨shown, found⟩ := Option.isSome_iff_exists.mp bound
        obtain ⟨output, executed⟩ := execute_of_setsSymbol registry sets found
        refine ⟨⟨output, congrArg Prod.fst executed⟩, ?_⟩
        rw [show after = state.setSymbol name [c] from congrArg Prod.snd executed]
        exact state.rebinds_setSymbol name [c]
    · next unbound =>
        have unshown := Option.not_isSome_iff_eq_none.mp unbound
        exact congrArg Prod.fst (execute_of_setsSymbol_of_unbound registry sets unshown)

example :
    let state := State.start ⟨Bindings.empty, Bindings.empty⟩ [] ['/'] 0 Symbols.standard
    (execute Registry.standard state "Symbol prompt $".text).2 = state.setSymbol .prompt ['$'] ∧
      (execute Registry.standard state "symbol prompt $$".text).2 = state := by
  decide +kernel

end LineShell
