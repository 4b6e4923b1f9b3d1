import LineShell.Command.Utility

/-!
The values that `env` shows for names. They are put together with line ends between them, and one
more behind the whole unless it is empty; so each value gets a line of its own except where there is
just one value and it is empty, which leaves no trace.
-/

namespace LineShell

namespace Text

theorem asLines_cons (text : Text) (texts : List Text) :
    asLines (text :: texts) = text ++ CodePoint.char '\n' :: asLines texts := by
  rw [asLines, List.flatMap_cons, List.append_assoc]
  rfl

theorem join_append_eq_asLines {texts : List Text} (occupied : texts ≠ []) :
    join [.char '\n'] texts ++ [.char '\n'] = asLines texts := by
  induction texts with
  | nil => exact absurd rfl occupied
  | cons text rest ih =>
      rw [asLines_cons, join]
      cases rest with
      | nil =>
          rw [List.intercalate_singleton]
          rfl
      | cons next rest =>
          rw [← ih (List.cons_ne_nil next rest), List.intercalate_cons_cons, join]
          simp

theorem join_eq_nil_iff {texts : List Text} :
    join [.char '\n'] texts = [] ↔ texts = [] ∨ texts = [[]] := by
  rw [join]
  rcases texts with _ | ⟨text, _ | ⟨next, rest⟩⟩
  · simp
  · rw [List.intercalate_singleton]
    simp
  · rw [List.intercalate_cons_cons]
    simp

end Text

namespace Utility

theorem stdout_valuesOf (store : Store) (names : List Text) :
    (valuesOf store names).stdout =
      if names.filterMap store.resolve = [[]] then []
      else Text.asLines (names.filterMap store.resolve) := by
  rw [valuesOf]
  generalize names.filterMap store.resolve = values
  simp only [List.isEmpty_iff, Text.join_eq_nil_iff]
  by_cases lone : values = [[]]
  · rw [if_pos (Or.inr lone), if_pos lone]
  · rw [if_neg lone]
    by_cases nothing : values = []
    · rw [if_pos (Or.inl nothing), nothing]
      rfl
    · rw [if_neg (not_or.mpr ⟨nothing, lone⟩), Text.join_append_eq_asLines nothing]

theorem exitCode_valuesOf (store : Store) (names : List Text) :
    (valuesOf store names).exitCode =
      if ∃ name ∈ names, store.resolve name = none then 1 else 0 := by
  rw [valuesOf]
  dsimp only
  by_cases missing : ∃ name ∈ names, store.resolve name = none
  · rw [if_pos missing, if_neg]
    obtain ⟨name, member, unset⟩ := missing
    intro all
    have found := List.all_eq_true.mp all name member
    rw [unset] at found
    cases found
  · rw [if_neg missing, if_pos]
    rw [List.all_eq_true]
    intro name member
    rw [Option.isSome_iff_ne_none]
    exact fun unset => missing ⟨name, member, unset⟩

/-- `env` tells by its exit code whether a name has no value, and gives every value a line of its
own except where the values are one empty text, which it does not show at all. -/
theorem named_values_fill_lines_iff (state : State) (names : List Text) :
    let values := names.filterMap state.store.resolve
    let result := valuesOf state.store names
    (∀ line : CommandLine, line.words = names → names ≠ [] → "--help".text ∉ names →
        env.outcome state line =
          match names.find? state.store.refuses with
          | some name => .failed (.unencodableName name)
          | none => .returned result) ∧
      result.stderr = [] ∧
      result.exitCode = (if ∃ name ∈ names, state.store.resolve name = none then 1 else 0) ∧
      (result.stdout = Text.asLines values ↔ values ≠ [[]]) ∧
      (values = [[]] → result.stdout = []) := by
  intro values result
  have shown : result.stdout = if values = [[]] then [] else Text.asLines values :=
    stdout_valuesOf state.store names
  refine ⟨?_, rfl, exitCode_valuesOf state.store names, ?_, ?_⟩
  · rintro line rfl named noHelp
    change showVariables state.store line = _
    have occupied : ¬line.words.isEmpty = true := mt List.isEmpty_iff.mp named
    exact (if_neg noHelp).trans (if_neg occupied)
  · rw [shown]
    by_cases lone : values = [[]]
    · rw [if_pos lone, lone]
      simp [Text.asLines]
    · rw [if_neg lone]
      exact iff_of_true rfl lone
  · intro lone
    rw [shown, if_pos lone]

/-- An empty value between others has its line, and a name without a value has none. -/
theorem named_values_fill_lines_iff_around_empty :
    let state := State.start ⟨Bindings.ofList [(['a'], ['1']), (['e'], [])], Bindings.empty⟩ []
      ['/'] 0 Symbols.standard
    let line : CommandLine := ⟨"env".text, some "a e x a".text⟩
    line.words ≠ [] ∧ "--help".text ∉ line.words ∧
      env.outcome state line = .returned ⟨"1\n\n1\n".text, [], 1⟩ := by
  intro state line
  have named : line.words ≠ [] := by decide
  have noHelp : "--help".text ∉ line.words := by decide
  have granted : line.words.find? state.store.refuses = none := by decide +kernel
  obtain ⟨sameOutcome, stderr, exitCode, filled, -⟩ := named_values_fill_lines_iff state line.words
  refine ⟨named, noHelp, (sameOutcome line rfl named noHelp).trans ?_⟩
  rw [granted]
  have shown : (valuesOf state.store line.words).stdout = "1\n\n1\n".text :=
    (filled.mpr (by decide)).trans (by decide)
  have code : (valuesOf state.store line.words).exitCode = 1 := exitCode.trans (by decide)
  rw [← shown, ← stderr, ← code]

/-- One empty value is not shown, not even by an empty line. -/
theorem lone_empty_value_not_shown :
    ¬∀ (state : State) (line : CommandLine), line.words ≠ [] → "--help".text ∉ line.words →
      ∃ code, env.outcome state line =
        .returned ⟨Text.asLines (line.words.filterMap state.store.resolve), [], code⟩ := by
  intro claimed
  let state := State.start ⟨Bindings.ofList [(['e'], [])], Bindings.empty⟩ [] ['/'] 0
    Symbols.standard
  let line : CommandLine := ⟨"env".text, some ['e']⟩
  obtain ⟨code, shown⟩ := claimed state line (by decide) (by decide)
  have empty : env.outcome state line = .returned ⟨[], [], 0⟩ := by decide +kernel
  rw [empty] at shown
  have stdout : [] = Text.asLines (line.words.filterMap state.store.resolve) :=
    congrArg Result.stdout (Outcome.returned.inj shown)
  exact absurd stdout (by decide)

end Utility

end LineShell
