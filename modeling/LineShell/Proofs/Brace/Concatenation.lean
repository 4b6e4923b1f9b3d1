import LineShell.Proofs.BackslashRun
import LineShell.Proofs.Brace.Choice

/-!
Brace expansion and concatenation. In a closed text every group ends where the text still goes on,
so what follows the text changes none of its pieces, and the choices of two texts put together are
the choices of both.
-/

namespace LineShell.Brace

open Escape

def endsInDollar (text : Text) : Bool :=
  text.getLast? = some (.char '$') && !escapes (runAtEnd text.dropLast)

/-- Holds if a brace directly behind the text is neither escaped nor part of a reference. -/
def opensBehind (text : Text) : Bool :=
  !escapes (runAtEnd text) && !endsInDollar text

def Closed (text : Text) : Prop :=
  ∀ before after, text = before ++ .char '{' :: after →
    opensBehind before = true → .char '}' ∈ after

theorem closed_iff (text : Text) :
    Closed text ↔ ∀ position < text.length, text[position]? = some (.char '{') →
      opensBehind (text.take position) = true → .char '}' ∈ text.drop (position + 1) := by
  constructor
  · intro closed position _within brace opens
    refine closed (text.take position) (text.drop (position + 1)) ?_ opens
    obtain ⟨inside, same⟩ := List.getElem?_eq_some_iff.mp brace
    rw [← same, ← List.drop_eq_getElem_cons inside, List.take_append_drop]
  · rintro everywhere before after rfl opens
    have behind := everywhere before.length (by simp) (by simp) (by simpa using opens)
    simpa using behind

instance (text : Text) : Decidable (Closed text) :=
  decidable_of_iff _ (closed_iff text).symm

theorem endsInDollar_concat (text : Text) (c : CodePoint) :
    endsInDollar (text ++ [c]) = (decide (c = '$') && !escapes (runAtEnd text)) := by
  simp [endsInDollar]

theorem takeGroup?_append_some {run : Nat} {text content after : Text}
    (found : takeGroup? run text = some (content, after)) (more : Text) :
    takeGroup? run (text ++ more) = some (content, after ++ more) := by
  induction text generalizing run content with
  | nil => cases found
  | cons c rest ih =>
      rw [takeGroup?] at found
      rw [List.cons_append, takeGroup?]
      split at found
      · next closing =>
          cases found
          rw [if_pos closing]
      · next open_ =>
          rw [if_neg open_]
          split at found
          · cases found
          · next inner =>
              rw [if_neg inner]
              obtain ⟨⟨tail, behind⟩, tailFound, rebuilt⟩ := Option.map_eq_some_iff.mp found
              cases rebuilt
              rw [ih tailFound]
              rfl

/-- A group that another opening brace makes literal stays literal, if the text holds a closing
brace: the opening one comes first. -/
theorem takeGroup?_append_none {run : Nat} {text : Text} (absent : takeGroup? run text = none)
    (closing : .char '}' ∈ text) (more : Text) : takeGroup? run (text ++ more) = none := by
  induction text generalizing run with
  | nil => cases closing
  | cons c rest ih =>
      rw [takeGroup?] at absent
      rw [List.cons_append, takeGroup?]
      split at absent
      · cases absent
      · next different =>
          rw [if_neg different]
          split at absent
          · next inner => rw [if_pos inner]
          · next inner =>
              have later : .char '}' ∈ rest :=
                (List.mem_cons.mp closing).resolve_left (fun same => different same.symm)
              rw [if_neg inner, ih (Option.map_eq_none_iff.mp absent) later]
              rfl

theorem opensBehind_of_opening {c : CodePoint} {run : Nat} {afterDollar : Bool} {before : Text}
    (opening : (decide (c = '{') && !escapes run && !afterDollar) = true)
    (runHere : run = runAtEnd before) (dollarHere : afterDollar = endsInDollar before) :
    c = '{' ∧ opensBehind before = true := by
  simp only [Bool.and_eq_true, decide_eq_true_eq] at opening
  subst runHere dollarHere
  exact ⟨opening.1.1, by rw [opensBehind, opening.1.2, opening.2, Bool.and_self]⟩

/-- No piece of a closed text is unclosed. The scan stands behind `before`, which fixes the run and
the dollar that it carries. -/
private theorem unclosed_notMem_piecesAfter {run : Nat} {afterDollar : Bool} {text : Text}
    (before : Text) (closed : Closed (before ++ text)) (runHere : run = runAtEnd before)
    (dollarHere : afterDollar = endsInDollar before) (unclosedRun : Nat) (rest : Text) :
    Piece.unclosed unclosedRun rest ∉ piecesAfter run afterDollar text := by
  fun_induction piecesAfter run afterDollar text generalizing before with
  | case1 run afterDollar => simp
  | case2 run afterDollar text ih =>
      apply ih (before ++ [.char '\\'])
      · simpa using closed
      · rw [runAtEnd_concat_backslash, runHere]
      · rw [endsInDollar_concat]
        rfl
  | case3 run afterDollar c text _ opening content after found ih =>
      have consumed := takeGroup?_append found
      have brace := (opensBehind_of_opening opening runHere dollarHere).1
      have later := ih (before ++ .char '{' :: content ++ [.char '}'])
        (by simpa [consumed, brace] using closed)
        (runAtEnd_concat (by decide) _).symm
        (by rw [endsInDollar_concat]; rfl)
      simpa using later
  | case4 run afterDollar c text plain opening absent closing ih =>
      have brace := (opensBehind_of_opening opening runHere dollarHere).1
      have later := ih (before ++ [c]) (by simpa using closed) (runAtEnd_concat plain _).symm
        (by rw [endsInDollar_concat, brace]; rfl)
      simpa using later
  | case5 run afterDollar c text _ opening absent unclosed =>
      obtain ⟨brace, opens⟩ := opensBehind_of_opening opening runHere dollarHere
      subst brace
      exact absurd (closed before text rfl opens) unclosed
  | case6 run afterDollar c text plain stays ih =>
      have later := ih (before ++ [c]) (by simpa using closed) (runAtEnd_concat plain _).symm
        (by rw [endsInDollar_concat, runHere])
      simpa using later

/-- Behind a closed text that ends in neither a backslash nor an unescaped dollar, the pieces of
another text are what they are on their own. -/
private theorem piecesAfter_append {run : Nat} {afterDollar : Bool} {first : Text}
    (before second : Text) (closed : Closed (before ++ first)) (runHere : run = runAtEnd before)
    (dollarHere : afterDollar = endsInDollar before) (noRun : runAtEnd (before ++ first) = 0)
    (noDollar : endsInDollar (before ++ first) = false) :
    ∃ start, piecesAfter run afterDollar first = start ++ [.literal []] ∧
      piecesAfter run afterDollar (first ++ second) = start ++ pieces second := by
  fun_induction piecesAfter run afterDollar first generalizing before with
  | case1 run afterDollar =>
      rw [List.append_nil] at noRun noDollar
      subst runHere dollarHere
      refine ⟨[], ?_, ?_⟩
      · rw [noRun]
        rfl
      · rw [noRun, noDollar]
        rfl
  | case2 run afterDollar text ih =>
      rw [List.cons_append, piecesAfter_backslash]
      apply ih (before ++ [.char '\\'])
      · simpa using closed
      · rw [runAtEnd_concat_backslash, runHere]
      · rw [endsInDollar_concat]
        rfl
      · simpa using noRun
      · simpa using noDollar
  | case3 run afterDollar c text plain opening content after found ih =>
      have consumed := takeGroup?_append found
      have brace := (opensBehind_of_opening opening runHere dollarHere).1
      have whole : before ++ .char '{' :: content ++ [.char '}'] ++ after =
          before ++ c :: text := by
        simp [consumed, brace]
      obtain ⟨start, alone, joined⟩ := ih (before ++ .char '{' :: content ++ [.char '}'])
        (by rw [whole]; exact closed)
        (runAtEnd_concat (by decide) _).symm
        (by rw [endsInDollar_concat]; rfl)
        (by rw [whole]; exact noRun)
        (by rw [whole]; exact noDollar)
      refine ⟨.group run content :: start, by rw [alone]; rfl, ?_⟩
      rw [List.cons_append, piecesAfter_opening plain opening, takeGroup?_append_some found]
      dsimp only
      rw [joined]
      rfl
  | case4 run afterDollar c text plain opening absent closing ih =>
      have brace := (opensBehind_of_opening opening runHere dollarHere).1
      obtain ⟨start, alone, joined⟩ := ih (before ++ [c]) (by simpa using closed)
        (runAtEnd_concat plain _).symm
        (by rw [endsInDollar_concat, brace]; rfl)
        (by simpa using noRun) (by simpa using noDollar)
      refine ⟨.literal (backslashes run ++ [c]) :: start, by rw [alone]; rfl, ?_⟩
      rw [List.cons_append, piecesAfter_opening plain opening,
        takeGroup?_append_none absent closing]
      dsimp only
      rw [if_pos (List.mem_append_left _ closing), joined]
      rfl
  | case5 run afterDollar c text _ opening absent unclosed =>
      obtain ⟨brace, opens⟩ := opensBehind_of_opening opening runHere dollarHere
      subst brace
      exact absurd (closed before text rfl opens) unclosed
  | case6 run afterDollar c text plain stays ih =>
      obtain ⟨start, alone, joined⟩ := ih (before ++ [c]) (by simpa using closed)
        (runAtEnd_concat plain _).symm
        (by rw [endsInDollar_concat, runHere])
        (by simpa using noRun) (by simpa using noDollar)
      refine ⟨.literal (backslashes run ++ [c]) :: start, by rw [alone]; rfl, ?_⟩
      rw [List.cons_append, piecesAfter, if_neg plain, if_neg stays, joined]
      rfl

/-- The choices of a closed text, if its expansion does not fail and its groups give no more lines
than allowed. -/
private theorem choices_of_closed {text : Text} {lines : List Text} (closed : Closed text)
    (expanded : expand text = .ok lines) (within : lineCount (pieces text) ≤ resultLimit) :
    ∃ lists, (pieces text).map Piece.offer = lists.map .ok ∧ lines = combinations lists := by
  have start : 1 ≤ resultLimit := by decide
  unfold expand at expanded
  cases chosen : choices 1 (pieces text) with
  | ok lists =>
      rw [chosen] at expanded
      cases expanded
      exact ⟨lists, ((choices_eq_ok_iff start).mp chosen).1, rfl⟩
  | error obstacle =>
      exfalso
      rw [chosen] at expanded
      rcases choices_eq_error start chosen with ⟨piece, member, refused⟩ | ⟨_, exceeds⟩
      · rcases Piece.refusal_cases refused with ⟨-, run, rest, rfl⟩ | ⟨rfl, -⟩
        · exact unclosed_notMem_piecesAfter [] closed rfl rfl run rest member
        · cases expanded
      · omega

/-- Expanding two closed texts put together gives every line of the first followed by every line of
the second, if the seam hides no escape and no reference and the groups of both together give no
more lines than allowed. -/
theorem expand_append {first second : Text} {firstLines secondLines : List Text}
    (firstClosed : Closed first) (secondClosed : Closed second)
    (noBackslash : first.getLast? ≠ some (.char '\\'))
    (noDollar : first.getLast? ≠ some (.char '$'))
    (firstExpanded : expand first = .ok firstLines)
    (secondExpanded : expand second = .ok secondLines)
    (within : lineCount (pieces first) * lineCount (pieces second) ≤ resultLimit) :
    ∃ lines, expand (first ++ second) = .ok lines ∧
      lines = firstLines.flatMap (fun start => secondLines.map (start ++ ·)) ∧
      lines.length = firstLines.length * secondLines.length := by
  have firstWithin : lineCount (pieces first) ≤ resultLimit :=
    Nat.le_trans (Nat.le_mul_of_pos_right _ (lineCount_pos _)) within
  have secondWithin : lineCount (pieces second) ≤ resultLimit :=
    Nat.le_trans (Nat.le_mul_of_pos_left _ (lineCount_pos _)) within
  obtain ⟨firstLists, firstOffered, rfl⟩ :=
    choices_of_closed firstClosed firstExpanded firstWithin
  obtain ⟨secondLists, secondOffered, rfl⟩ :=
    choices_of_closed secondClosed secondExpanded secondWithin
  obtain ⟨start, alone, joined⟩ := piecesAfter_append [] second firstClosed rfl rfl
    (runAtEnd_eq_zero noBackslash) (by simp [endsInDollar, noDollar])
  change pieces first = _ at alone
  change pieces (first ++ second) = _ at joined
  rw [alone, List.map_append] at firstOffered
  obtain ⟨startLists, lastLists, rfl, startOffered, lastOffered⟩ :=
    List.map_eq_append_iff.mp firstOffered.symm
  have lastEmpty : lastLists = [[[]]] := by
    obtain ⟨texts, others, rfl, same, noOthers⟩ := List.map_eq_cons_iff.mp lastOffered
    cases same
    rw [List.map_eq_nil_iff.mp noOthers]
  have chosen : choices 1 (pieces (first ++ second)) = .ok (startLists ++ secondLists) := by
    rw [choices_eq_ok_iff (by decide), joined, List.map_append, List.map_append, startOffered,
      secondOffered, lineCount_append]
    refine ⟨rfl, ?_⟩
    rw [alone, lineCount_append] at within
    simpa [lineCount, Piece.lines] using within
  refine ⟨combinations (startLists ++ secondLists), ?_, ?_, ?_⟩
  · rw [expand, chosen]
  · rw [lastEmpty, combinations_concat_nil, combinations_append]
  · rw [lastEmpty, combinations_concat_nil]
    simp only [length_combinations, List.map_append, List.prod_append]

/-- An escaped brace, a reference and a group, followed by an empty pair of braces and a range. -/
theorem expand_append_at_mixed_braces :
    ∃ lines,
      expand ((['\\', '{', '$', '{', 'v', '}', '{', '1', ',', '2', '}'] : Text) ++
        (['{', '}', '{', 'a', '.', '.', 'b', '}'] : Text)) = .ok lines ∧
      lines =
        ([['\\', '{', '$', '{', 'v', '}', '1'],
          ['\\', '{', '$', '{', 'v', '}', '2']] : List Text).flatMap
          (fun start => ([['{', '}', 'a'], ['{', '}', 'b']] : List Text).map (start ++ ·)) ∧
      lines.length = 2 * 2 :=
  expand_append (by decide) (by decide) (by decide) (by decide) (by decide +kernel)
    (by decide +kernel) (by decide +kernel)

end LineShell.Brace
