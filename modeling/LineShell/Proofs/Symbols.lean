import LineShell.Proofs.Variables

/-!
The prompt symbols and the variables that show them. A new state shows every symbol; giving a symbol
a new value keeps that so, while binding the variable alone does not unless it is bound to the
symbol itself.
-/

namespace LineShell

theorem SymbolName.shownIn_injective {first second : SymbolName}
    (same : first.shownIn = second.shownIn) : first = second := by
  revert same
  cases first <;> cases second <;> decide

theorem SymbolName.mem_all (name : SymbolName) : name ∈ all := by
  cases name <;> decide

namespace Symbols

theorem get_set_self (symbols : Symbols) (name : SymbolName) (symbol : Text) :
    (symbols.set name symbol).get name = symbol := by
  cases name <;> rfl

theorem get_set_of_ne (symbols : Symbols) {name other : SymbolName} (different : other ≠ name)
    (symbol : Text) : (symbols.set name symbol).get other = symbols.get other := by
  cases name <;> cases other <;> simp_all [get, set]

end Symbols

namespace State

def MirrorsAt (state : State) (name : SymbolName) : Prop :=
  state.store.own.get? name.shownIn = some (state.symbols.get name)

def Mirrors (state : State) : Prop :=
  ∀ name, state.MirrorsAt name

theorem mirrorsAt_setSymbol_self (state : State) (name : SymbolName) (symbol : Text) :
    (state.setSymbol name symbol).MirrorsAt name := by
  change (state.store.assign name.shownIn symbol).own.get? name.shownIn =
    some ((state.symbols.set name symbol).get name)
  rw [Store.own_get?_assign, if_pos rfl, Symbols.get_set_self]

theorem mirrorsAt_setSymbol_of_ne {name other : SymbolName} (different : other ≠ name)
    (state : State) (symbol : Text) :
    (state.setSymbol name symbol).MirrorsAt other ↔ state.MirrorsAt other := by
  change (state.store.assign name.shownIn symbol).own.get? other.shownIn =
    some ((state.symbols.set name symbol).get other) ↔ _
  rw [Store.own_get?_assign, if_neg fun same => different (SymbolName.shownIn_injective same),
    Symbols.get_set_of_ne _ different]
  exact Iff.rfl

theorem mirrorsAt_assign (state : State) (name : SymbolName) (variableName value : Text) :
    ({ state with store := state.store.assign variableName value } : State).MirrorsAt name ↔
      if name.shownIn = variableName then value = state.symbols.get name
      else state.MirrorsAt name := by
  change (state.store.assign variableName value).own.get? name.shownIn =
    some (state.symbols.get name) ↔ _
  rw [Store.own_get?_assign]
  split
  · rw [Option.some.injEq]
  · exact Iff.rfl

theorem mirrorsAt_alignSymbol_self (state : State) (name : SymbolName) :
    (state.alignSymbol name).MirrorsAt name := by
  unfold alignSymbol
  split
  · next c bound =>
      change state.store.own.get? name.shownIn = some ((state.symbols.set name [c]).get name)
      rw [bound, Symbols.get_set_self]
  · rw [mirrorsAt_assign, if_pos rfl]

theorem mirrorsAt_alignSymbol_of_ne {name other : SymbolName} (different : other ≠ name)
    {state : State} (mirrors : state.MirrorsAt other) :
    (state.alignSymbol name).MirrorsAt other := by
  unfold alignSymbol
  split
  · next c bound =>
      change state.store.own.get? other.shownIn = some ((state.symbols.set name [c]).get other)
      rw [Symbols.get_set_of_ne _ different]
      exact mirrors
  · rw [mirrorsAt_assign, if_neg fun same => different (SymbolName.shownIn_injective same)]
    exact mirrors

theorem mirrorsAt_alignAll {name : SymbolName} {names : List SymbolName} {state : State}
    (aligned : name ∈ names ∨ state.MirrorsAt name) :
    (names.foldl alignSymbol state).MirrorsAt name := by
  induction names generalizing state with
  | nil =>
      rcases aligned with absent | mirrors
      · cases absent
      · exact mirrors
  | cons first rest ih =>
      rw [List.foldl_cons]
      by_cases same : name = first
      · subst same
        exact ih (Or.inr (mirrorsAt_alignSymbol_self state name))
      · rcases aligned with member | mirrors
        · exact ih (Or.inl ((List.mem_cons.mp member).resolve_left same))
        · exact ih (Or.inr (mirrorsAt_alignSymbol_of_ne same mirrors))

theorem mirrors_start (store : Store) (history : List Text) (directory : Text)
    (lastExitCode : Int) (symbols : Symbols) :
    (start store history directory lastExitCode symbols).Mirrors :=
  fun name => mirrorsAt_alignAll (Or.inl name.mem_all)

theorem frame_alignSymbol (state : State) (name : SymbolName) :
    (state.alignSymbol name).history = state.history ∧
      (state.alignSymbol name).lastExitCode = state.lastExitCode := by
  unfold alignSymbol
  split <;> exact ⟨rfl, rfl⟩

theorem frame_alignAll (state : State) (names : List SymbolName) :
    (names.foldl alignSymbol state).history = state.history ∧
      (names.foldl alignSymbol state).lastExitCode = state.lastExitCode := by
  induction names generalizing state with
  | nil => exact ⟨rfl, rfl⟩
  | cons first rest ih =>
      obtain ⟨history, code⟩ := frame_alignSymbol state first
      obtain ⟨historyRest, codeRest⟩ := ih (state.alignSymbol first)
      exact ⟨historyRest.trans history, codeRest.trans code⟩

theorem history_start (store : Store) (directory : Text) (lastExitCode : Int) (symbols : Symbols) :
    (start store [] directory lastExitCode symbols).history = [[]] :=
  (frame_alignAll _ _).1

theorem lastExitCode_start (store : Store) (history : List Text) (directory : Text)
    (lastExitCode : Int) (symbols : Symbols) :
    (start store history directory lastExitCode symbols).lastExitCode = lastExitCode :=
  (frame_alignAll _ _).2

end State

end LineShell
