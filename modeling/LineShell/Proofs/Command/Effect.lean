import LineShell.Proofs.Command.Call
import LineShell.Proofs.Symbols

/-!
What a command line can do. In a sound state, one that shows every symbol in its variable and holds
an exit code of a process, every command gives a result with such an exit code; and whatever it
changes, the state stays sound and the history as it was.
-/

namespace LineShell

def IsExitCode (code : Int) : Prop :=
  0 ≤ code ∧ code ≤ 255

instance : DecidablePred IsExitCode :=
  fun _ => inferInstanceAs (Decidable (_ ∧ _))

def Outcome.Reports : Outcome → Prop
  | .returned result => IsExitCode result.exitCode
  | .exited result => IsExitCode result.exitCode
  | .failed _ => False

theorem Outcome.Reports.precededBy {outcome : Outcome} (reports : outcome.Reports)
    (earlier : Result) : (outcome.precededBy earlier).Reports := by
  cases outcome <;> exact reports

def Store.ShowsAll (store : Store) : Prop :=
  ∀ name : SymbolName, ∃ shown, store.own.get? name.shownIn = some shown

theorem Store.ShowsAll.assign {store : Store} (shows : store.ShowsAll) (name value : Text) :
    (store.assign name value).ShowsAll := by
  intro symbol
  obtain ⟨shown, bound⟩ := shows symbol
  rw [Store.own_get?_assign]
  split
  · exact ⟨value, rfl⟩
  · exact ⟨shown, bound⟩

structure State.Sound (state : State) : Prop where
  shows : state.store.ShowsAll
  exitCode : IsExitCode state.lastExitCode

/-- Holds of a line that calls `env` with a name among its words. -/
def CallsEnv (registry : Registry) (line name : Text) : Prop :=
  ∃ cut, CommandLine.read? line = some cut ∧ Recognized.of registry line cut = .utility .env ∧
    name ∈ cut.words

/-- Holds of a command that fails because it calls `env` with a name that cannot be looked up. -/
structure FailsAtName (registry : Registry) (state : State) (line : Text) (name : Text) : Prop where
  outcome : (effectOf registry state line).outcome = .failed (.unencodableName name)
  calls : CallsEnv registry line name
  refused : state.store.refuses name = true

namespace Builtin

end Builtin

theorem State.history_apply (state : State) (change : Change) :
    (state.apply change).history = state.history := by
  cases change <;> rfl

theorem State.Sound.apply {state : State} (sound : state.Sound) (change : Change) :
    (state.apply change).Sound := by
  cases change with
  | nothing => exact sound
  | assign name value => exact ⟨sound.shows.assign name value, sound.exitCode⟩
  | setSymbol name symbol => exact ⟨sound.shows.assign name.shownIn symbol, sound.exitCode⟩

end LineShell
