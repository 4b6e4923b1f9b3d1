import LineShell.Proofs.Execution
import LineShell.Proofs.Protection

namespace LineShell

namespace Escape

def Plain (text : Text) : Prop :=
  ∀ c ∈ text, c ≠ '\\' ∧ c ≠ '{' ∧ c ≠ '$' ∧ c ≠ '!'

instance : DecidablePred Plain :=
  fun text => List.decidableBAll _ text

theorem plain_of_allBlank {text : Text} (blank : Text.allBlank text = true) : Plain text := by
  intro c member
  have here := Text.allBlank_eq_true_iff.mp blank c member
  exact ⟨Text.ne_of_isBlank here (by decide), Text.ne_of_isBlank here (by decide),
    Text.ne_of_isBlank here (by decide), Text.ne_of_isBlank here (by decide)⟩

theorem protectedAfter_of_plain {text : Text} (plain : Plain text) (run : Nat) :
    ProtectedAfter run text := by
  induction text generalizing run with
  | nil => trivial
  | cons c rest ih =>
      obtain ⟨⟨noBackslash, noBrace, noDollar, noMark⟩, plainRest⟩ := List.forall_mem_cons.mp plain
      refine (protectedAfter_cons noBackslash run rest).mpr ⟨fun trigger => ?_, ih plainRest 0⟩
      rw [startsTrigger_other noBrace noDollar noMark] at trigger
      cases trigger

theorem protected_of_plain {text : Text} (plain : Plain text) : Protected text :=
  protectedAfter_of_plain plain 0

theorem stripAfter_of_plain {text : Text} (plain : Plain text) (run : Nat) :
    stripAfter run text = backslashes run ++ text := by
  induction text generalizing run with
  | nil => rw [stripAfter, List.append_nil]
  | cons c rest ih =>
      obtain ⟨⟨noBackslash, noBrace, noDollar, noMark⟩, plainRest⟩ := List.forall_mem_cons.mp plain
      rw [stripAfter_cons noBackslash, startsTrigger_other noBrace noDollar noMark, ih plainRest]
      rfl

theorem strip_of_plain {text : Text} (plain : Plain text) : strip text = text :=
  stripAfter_of_plain plain 0

end Escape

open Escape

theorem Expansion.expand_of_plain {line : Text} (plain : Plain line) (state : State) :
    Expansion.expand state line = .ok ([line], state) := by
  rw [Expansion.expand_of_protected (protected_of_plain plain), strip_of_plain plain]

/-- A line that expands to a single command does what the command does, and is remembered itself. -/
theorem runLine_of_single (registry : Registry) {state : State} {line command : Text}
    (expanded : Expansion.expand state line = .ok ([command], state))
    (trimmed : Text.trim command = command) (nonempty : command ≠ []) :
    runLine registry state line =
      ⟨(effectOf registry state command).outcome,
        (Step.take registry state command).after.rememberLine line,
        [Step.take registry state command]⟩ := by
  have commands : commandsOf [command] = [command] := by
    rw [commandsOf, List.map_singleton, trimmed]
    exact List.filter_cons_of_pos (by simp [nonempty])
  have steps : Step.takeAll registry state [command] = [Step.take registry state command] := by
    rw [Step.takeAll]
    split <;> rfl
  unfold runLine
  rw [expanded]
  dsimp only
  rw [commands, steps]
  rfl

end LineShell
