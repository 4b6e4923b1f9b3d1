import LineShell.Proofs.Brace.Location

/-!
Braces that nothing closes. A group ends at a closing brace, so none reaches beyond an opening brace
that has no closing one behind it: the scan comes to that brace whatever stands in front of it, and
the text is left as it is.
-/

namespace LineShell.Brace

open Escape

theorem eq_append_of_unclosed {front back gap after : Text} (unclosed : .char '}' ∉ after)
    (whole : front ++ .char '}' :: back = gap ++ .char '{' :: after) :
    ∃ more, gap = front ++ .char '}' :: more ∧ back = more ++ .char '{' :: after := by
  rcases List.append_eq_append_iff.mp whole with ⟨more, behind, same⟩ | ⟨more, behind, same⟩
  · cases more with
    | nil => cases same
    | cons c more =>
        cases same
        exact ⟨more, behind, rfl⟩
  · apply absurd _ unclosed
    cases more with
    | nil => cases same
    | cons c more =>
        cases same
        exact List.mem_append_right more List.mem_cons_self

theorem eq_append_of_takeGroup? {run : Nat} {rest content behind gap after : Text}
    (found : takeGroup? run rest = some (content, behind)) (unclosed : .char '}' ∉ after)
    (whole : .char '{' :: rest = gap ++ .char '{' :: after) :
    ∃ more, gap = .char '{' :: content ++ .char '}' :: more ∧
      behind = more ++ .char '{' :: after := by
  have consumed := takeGroup?_append found
  cases gap with
  | nil =>
      cases whole
      apply absurd _ unclosed
      rw [consumed]
      exact List.mem_append_right content List.mem_cons_self
  | cons c gap =>
      cases whole
      obtain ⟨more, rfl, same⟩ := eq_append_of_unclosed unclosed consumed.symm
      exact ⟨more, rfl, same⟩

/-- The scan stands behind `before`, which fixes the run and the dollar that it carries; `gap` is
what it still has to read in front of the brace. -/
private theorem unclosed_mem_piecesAfter (run : Nat) (afterDollar : Bool) {text : Text}
    (before gap : Text) {after : Text} (split : text = gap ++ .char '{' :: after)
    (runHere : run = runAtEnd before) (dollarHere : afterDollar = endsInDollar before)
    (opens : opensBehind (before ++ gap) = true) (unclosed : .char '}' ∉ after) :
    ∃ unclosedRun rest, Piece.unclosed unclosedRun rest ∈ piecesAfter run afterDollar text := by
  fun_induction piecesAfter run afterDollar text generalizing before gap with
  | case1 run afterDollar => simp at split
  | case2 run afterDollar rest ih =>
      cases gap with
      | nil => cases split
      | cons c gap =>
          cases split
          apply ih (before ++ [.char '\\']) gap rfl
          · rw [runAtEnd_concat_backslash, runHere]
          · rw [endsInDollar_concat]
            rfl
          · rwa [List.append_assoc]
  | case3 run afterDollar c rest _ opening content behind found ih =>
      have brace := (opensBehind_of_opening opening runHere dollarHere).1
      obtain ⟨more, rfl, rest⟩ := eq_append_of_takeGroup? found unclosed (brace ▸ split)
      obtain ⟨unclosedRun, left, member⟩ :=
        ih (before ++ .char '{' :: content ++ [.char '}']) more rest
        (runAtEnd_concat (by decide) _).symm (by rw [endsInDollar_concat]; rfl)
        (by simpa using opens)
      exact ⟨unclosedRun, left, List.mem_cons_of_mem _ member⟩
  | case4 run afterDollar c rest plain opening absent closing ih =>
      have brace := (opensBehind_of_opening opening runHere dollarHere).1
      cases gap with
      | nil =>
          cases split
          exact absurd closing unclosed
      | cons d gap =>
          cases split
          obtain ⟨unclosedRun, left, member⟩ := ih (before ++ [c]) gap rfl
            (runAtEnd_concat plain _).symm (by rw [endsInDollar_concat, brace]; rfl)
            (by rwa [List.append_assoc])
          exact ⟨unclosedRun, left, List.mem_cons_of_mem _ member⟩
  | case5 run afterDollar c rest => exact ⟨run, rest, List.mem_singleton_self _⟩
  | case6 run afterDollar c rest plain stays ih =>
      cases gap with
      | nil =>
          cases split
          rw [List.append_nil] at opens
          apply absurd _ stays
          subst runHere dollarHere
          simpa [opensBehind] using opens
      | cons d gap =>
          cases split
          obtain ⟨unclosedRun, left, member⟩ := ih (before ++ [c]) gap rfl
            (runAtEnd_concat plain _).symm (by rw [endsInDollar_concat, runHere])
            (by rwa [List.append_assoc])
          exact ⟨unclosedRun, left, List.mem_cons_of_mem _ member⟩

theorem choices_ne_ok_of_unclosed {pieces : List Piece} {run : Nat} {rest : Text}
    (member : Piece.unclosed run rest ∈ pieces) (lists : List (List Text)) :
    choices 1 pieces ≠ .ok lists := by
  intro chosen
  have offered := ((choices_eq_ok_iff (by decide)).mp chosen).1
  have refused : Except.error Obstacle.unclosed ∈ lists.map Except.ok := by
    rw [← offered]
    exact List.mem_map.mpr ⟨_, member, rfl⟩
  obtain ⟨_, _, impossible⟩ := List.mem_map.mp refused
  cases impossible

/-- An opening brace that nothing closes, wherever it stands, leaves the whole text as it is, or
else a group in front of it refuses the text. -/
theorem expand_of_unclosed {before after : Text} (opens : opensBehind before = true)
    (unclosed : .char '}' ∉ after) :
    expand (before ++ .char '{' :: after) = .ok [before ++ .char '{' :: after] ∨
      expand (before ++ .char '{' :: after) = .error .tooLong ∧ HasOverlongGroup before := by
  obtain ⟨run, rest, member⟩ :=
    unclosed_mem_piecesAfter 0 false [] before rfl rfl rfl opens unclosed
  cases expanded : expand (before ++ .char '{' :: after) with
  | ok lines =>
      left
      unfold expand at expanded
      split at expanded
      · next lists chosen => exact absurd chosen (choices_ne_ok_of_unclosed member lists)
      · cases expanded
      · exact expanded.symm
  | error refusal =>
      right
      cases refusal
      obtain ⟨lead, content, behind, whole, group, overlong⟩ :=
        (hasOverlongRange_of_expand expanded).hasOverlongGroup
      obtain ⟨more, inFront, -⟩ := eq_append_of_unclosed unclosed whole.symm
      exact ⟨rfl, lead, content, more, inFront, group, overlong⟩

/-- The brace stands behind two groups, a reference and an escaped brace, and in front of another
group that is not closed. -/
theorem expand_of_unclosed_behind_groups :
    let before : Text :=
      ['{', '1', ',', '2', '}', '{', 'x', '}', '$', '{', 'v', '}', '\\', '{']
    let after : Text := ['a', ',', '{', 'b', ',', 'c']
    opensBehind before = true ∧ .char '}' ∉ after ∧
      expand (before ++ .char '{' :: after) = .ok [before ++ .char '{' :: after] := by
  intro before after
  have opens : opensBehind before = true := by decide +kernel
  have unclosed : .char '}' ∉ after := by decide +kernel
  refine ⟨opens, unclosed, ?_⟩
  rcases expand_of_unclosed opens unclosed with unchanged | ⟨-, overlong⟩
  · exact unchanged
  · exact absurd overlong.length_lt (by decide)

end LineShell.Brace
