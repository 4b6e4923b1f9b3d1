import LineShell.Proofs.Padding.Brace

namespace LineShell

open Escape Text

variable {lead tail : Text}

namespace Expansion

theorem expandOne_around (blankLead : allBlank lead = true) (blankTail : allBlank tail = true)
    (history : List Text) (store : Store) (line : Text) :
    expandOne history store (around lead tail line) =
      (around lead tail (expandOne history store line).1, (expandOne history store line).2) := by
  unfold expandOne
  rw [History.resolve_around blankLead blankTail, Reference.replace_around blankLead blankTail]
  dsimp only
  rw [Arithmetic.reduce_around blankLead blankTail, strip_around blankLead blankTail]

theorem expandEach_around (blankLead : allBlank lead = true) (blankTail : allBlank tail = true)
    (history : List Text) (store : Store) (lines : List Text) :
    expandEach history store (lines.map (around lead tail)) =
      ((expandEach history store lines).1.map (around lead tail),
        (expandEach history store lines).2) := by
  induction lines generalizing store with
  | nil => rfl
  | cons line rest ih =>
      rw [List.map_cons, expandEach, expandOne_around blankLead blankTail, ih]
      rfl

theorem refused?_around (blankLead : allBlank lead = true) (blankTail : allBlank tail = true)
    (history : List Text) (store : Store) (lines : List Text) :
    refused? history store (lines.map (around lead tail)) = refused? history store lines := by
  induction lines generalizing store with
  | nil => rfl
  | cons line rest ih =>
      rw [List.map_cons, refused?_cons, refused?_cons, History.resolve_around blankLead blankTail,
        Reference.lookups_around blankLead blankTail, expandOne_around blankLead blankTail, ih]

theorem expand_around (blankLead : allBlank lead = true) (blankTail : allBlank tail = true)
    (state : State) (line : Text) :
    expand state (around lead tail line) =
      (expand state line).map fun (texts, next) => (texts.map (around lead tail), next) := by
  rw [expand, expand, Brace.expand_around blankLead blankTail]
  cases Brace.expand line with
  | error refusal => rfl
  | ok lines =>
      dsimp only [Except.map]
      rw [expandAll, expandAll, refused?_around blankLead blankTail,
        expandEach_around blankLead blankTail]
      cases refused? state.history state.store lines <;> rfl

end Expansion

theorem commandsOf_around (blankLead : allBlank lead = true) (blankTail : allBlank tail = true)
    (texts : List Text) : commandsOf (texts.map (around lead tail)) = commandsOf texts := by
  have trimmed : trim ∘ around lead tail = trim :=
    funext fun text => trim_append blankLead blankTail text
  rw [commandsOf, commandsOf, List.map_map, trimmed]

theorem State.rememberLine_eq (state : State) (line other : Text) :
    state.rememberLine line =
      { state.rememberLine other with history := (state.rememberLine line).history } := by
  unfold rememberLine
  split <;> split <;> rfl

/-- Blanks around a line change nothing of what running it does, but for what the history keeps. -/
theorem runLine_around (blankLead : allBlank lead = true) (blankTail : allBlank tail = true)
    (registry : Registry) (state : State) (line : Text) :
    let padded := runLine registry state (around lead tail line)
    let bare := runLine registry state line
    padded.outcome = bare.outcome ∧ padded.steps = bare.steps ∧
      padded.state = { bare.state with history := padded.state.history } := by
  unfold runLine
  rw [Expansion.expand_around blankLead blankTail]
  cases Expansion.expand state line with
  | error refusal => exact ⟨rfl, rfl, refusal.state.rememberLine_eq _ _⟩
  | ok expanded =>
      obtain ⟨texts, next⟩ := expanded
      dsimp only [Except.map]
      rw [commandsOf_around blankLead blankTail]
      exact ⟨rfl, rfl, State.rememberLine_eq _ _ _⟩

/-- A line and its trimmed form do the same in every state: they end alike, with the same output,
and leave the same variables, symbols and last exit code. A blank line leaves the history alone; the
entry of any other line is that of its trimmed form, with blanks around it. -/
theorem runLine_trim (registry : Registry) (state : State) (line : Text) :
    let typed := runLine registry state line
    let trimmed := runLine registry state (trim line)
    typed.outcome = trimmed.outcome ∧ typed.steps = trimmed.steps ∧
      typed.state.store = trimmed.state.store ∧ typed.state.symbols = trimmed.state.symbols ∧
      typed.state.lastExitCode = trimmed.state.lastExitCode ∧
      typed.state.directory = trimmed.state.directory ∧
      if allBlank line then
        typed.state.history = state.history ∧ trimmed.state.history = state.history
      else
        ∃ lead entry tail, allBlank lead = true ∧ allBlank tail = true ∧
          typed.state.history = state.history ++ [lead ++ (entry ++ tail)] ∧
          trimmed.state.history = state.history ++ [entry] := by
  intro typed trimmed
  obtain ⟨lead, tail, blankLead, blankTail, rebuilt⟩ := exists_eq_append_trim line
  obtain ⟨outcome, steps, reached⟩ := runLine_around blankLead blankTail registry state (trim line)
  rw [around, ← rebuilt] at outcome steps reached
  have typedHistory : typed.state.history = _ := history_runLine registry state line
  have trimmedHistory : trimmed.state.history = _ := history_runLine registry state (trim line)
  rw [allBlank_trim] at trimmedHistory
  refine ⟨outcome, steps, by rw [reached], by rw [reached], by rw [reached], by rw [reached], ?_⟩
  by_cases blank : allBlank line = true
  · rw [if_pos blank] at typedHistory trimmedHistory ⊢
    exact ⟨typedHistory, trimmedHistory⟩
  · rw [if_neg blank] at typedHistory trimmedHistory ⊢
    refine ⟨lead, History.resolve state.history (trim line), tail, blankLead, blankTail, ?_,
      trimmedHistory⟩
    have entry := History.resolve_around blankLead blankTail state.history (trim line)
    rw [around, ← rebuilt] at entry
    rw [typedHistory, History.add, entry]
    rfl

end LineShell
