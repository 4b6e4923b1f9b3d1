import LineShell.Proofs.Brace.Concatenation
import LineShell.Proofs.Brace.Refusal

namespace LineShell.Brace

open Escape

/-- Holds if an opening brace behind `before` begins a group with the given content, provided that a
closing brace follows the content. -/
structure IsGroup (before content : Text) : Prop where
  opens : opensBehind before = true
  closesNext : .char '}' ∉ content
  noneInside : ∀ start rest, content = start ++ .char '{' :: rest →
    escapes (runAtEnd (before ++ .char '{' :: start)) = true

theorem closesNext_of_takeGroup? {run : Nat} {text content after : Text}
    (found : takeGroup? run text = some (content, after)) : .char '}' ∉ content := by
  induction text generalizing run content with
  | nil => cases found
  | cons c rest ih =>
      rw [takeGroup?] at found
      split at found
      · cases found
        exact List.not_mem_nil
      · next different =>
          split at found
          · cases found
          · obtain ⟨⟨tail, behind⟩, inner, same⟩ := Option.map_eq_some_iff.mp found
            cases same
            intro closing
            rcases List.mem_cons.mp closing with here | later
            · exact different here.symm
            · exact ih inner later

/-- The scan for the end of a group stands behind `before`, which fixes the run that it carries. -/
theorem noneInside_of_takeGroup? {run : Nat} {text content after : Text} (before : Text)
    (runHere : run = runAtEnd before) (found : takeGroup? run text = some (content, after))
    (start rest : Text) (parted : content = start ++ .char '{' :: rest) :
    escapes (runAtEnd (before ++ start)) = true := by
  induction text generalizing run content before start with
  | nil => cases found
  | cons c text ih =>
      rw [takeGroup?] at found
      split at found
      · cases found
        exact absurd parted (by simp)
      · split at found
        · cases found
        · next noOpening =>
            obtain ⟨⟨tail, behind⟩, inner, same⟩ := Option.map_eq_some_iff.mp found
            cases same
            cases start with
            | nil =>
                cases parted
                rw [List.append_nil, ← runHere]
                simpa using noOpening
            | cons d start =>
                cases parted
                rw [← List.singleton_append, ← List.append_assoc]
                refine ih (before ++ [c]) ?_ inner start rfl
                split
                · next backslash => rw [backslash, runAtEnd_concat_backslash, runHere]
                · next plain => rw [runAtEnd_concat plain]

/-- The scan for groups stands behind `before`, which fixes the run and the dollar that it
carries. -/
private theorem isGroup_of_mem_piecesAfter {run : Nat} {afterDollar : Bool} {text : Text}
    (before : Text) (runHere : run = runAtEnd before)
    (dollarHere : afterDollar = endsInDollar before)
    {groupRun : Nat} {content : Text}
    (member : Piece.group groupRun content ∈ piecesAfter run afterDollar text) :
    ∃ lead after, before ++ text = lead ++ .char '{' :: content ++ .char '}' :: after ∧
      IsGroup lead content := by
  fun_induction piecesAfter run afterDollar text generalizing before with
  | case1 run afterDollar => simp at member
  | case2 run afterDollar text ih =>
      have behind := ih (before ++ [.char '\\']) (by rw [runAtEnd_concat_backslash, runHere])
        (by rw [endsInDollar_concat]; rfl) member
      rwa [List.append_assoc] at behind
  | case3 run afterDollar c text _ opening found after inner ih =>
      obtain ⟨rfl, opens⟩ := opensBehind_of_opening opening runHere dollarHere
      have consumed := takeGroup?_append inner
      rcases List.mem_cons.mp member with here | later
      · cases here
        refine ⟨before, after, by simp [consumed], opens, closesNext_of_takeGroup? inner, ?_⟩
        intro start rest parted
        have escaped := noneInside_of_takeGroup? (before ++ [.char '{'])
          (runAtEnd_concat (by decide) before).symm inner start rest parted
        rwa [List.append_assoc] at escaped
      · have behind := ih (before ++ .char '{' :: found ++ [.char '}'])
          (runAtEnd_concat (by decide) _).symm (by rw [endsInDollar_concat]; rfl) later
        simpa [consumed] using behind
  | case4 run afterDollar c text plain opening absent closing ih =>
      have brace := (opensBehind_of_opening opening runHere dollarHere).1
      have later := (List.mem_cons.mp member).resolve_left (by simp)
      have behind := ih (before ++ [c]) (runAtEnd_concat plain _).symm
        (by rw [endsInDollar_concat, brace]; rfl) later
      rwa [List.append_assoc] at behind
  | case5 run afterDollar c text _ opening absent unclosed => simp at member
  | case6 run afterDollar c text plain stays ih =>
      have later := (List.mem_cons.mp member).resolve_left (by simp)
      have behind := ih (before ++ [c]) (runAtEnd_concat plain _).symm
        (by rw [endsInDollar_concat, runHere]) later
      rwa [List.append_assoc] at behind

theorem isGroup_of_mem_pieces {text : Text} {run : Nat} {content : Text}
    (member : Piece.group run content ∈ pieces text) :
    ∃ before after, text = before ++ .char '{' :: content ++ .char '}' :: after ∧
      IsGroup before content :=
  isGroup_of_mem_piecesAfter [] rfl rfl member

theorem splitAtDots_ne_nil (text : Text) : splitAtDots text ≠ [] := by
  fun_cases splitAtDots text <;> simp_all

theorem join_splitAtDots (text : Text) : Text.join ['.', '.'] (splitAtDots text) = text := by
  unfold Text.join
  fun_induction splitAtDots text with
  | case1 => rfl
  | case2 c => simp
  | case3 c d rest dots ih =>
      simp only [Bool.and_eq_true, decide_eq_true_eq] at dots
      rw [List.intercalate_cons_of_ne_nil (splitAtDots_ne_nil rest), ih, dots.1, dots.2]
      rfl
  | case4 c d rest _ impossible => exact absurd impossible (splitAtDots_ne_nil _)
  | case5 c d rest _ piece pieces cut ih =>
      rw [cut] at ih
      cases pieces with
      | nil =>
          rw [List.intercalate_singleton] at ih ⊢
          rw [ih]
      | cons next others =>
          rw [List.intercalate_cons_cons] at ih ⊢
          rw [← ih]
          rfl

theorem splitAtDots_eq_pair {text low high : Text} (cut : splitAtDots text = [low, high]) :
    text = low ++ .char '.' :: .char '.' :: high := by
  have whole := join_splitAtDots text
  rw [cut] at whole
  rw [← whole]
  simp [Text.join]

/-- Holds of a text with a group that has a range of integers among its items, one end of which has
more than 4300 digits. -/
def HasOverlongGroup (text : Text) : Prop :=
  ∃ before content after, text = before ++ .char '{' :: content ++ .char '}' :: after ∧
    IsGroup before content ∧
    ∃ low high, low ++ .char '.' :: .char '.' :: high ∈ Text.splitWhere (· = ',') content ∧
      isInteger low = true ∧ isInteger high = true ∧
      (4300 < (Numeral.takeSign low).2.length ∨ 4300 < (Numeral.takeSign high).2.length)

theorem HasOverlongRange.hasOverlongGroup {text : Text} (overlong : HasOverlongRange text) :
    HasOverlongGroup text := by
  obtain ⟨run, content, member, part, item, low, high, cut, lowInteger, highInteger, long⟩ :=
    overlong
  obtain ⟨before, after, whole, group⟩ := isGroup_of_mem_pieces member
  rw [splitAtDots_eq_pair cut] at item
  exact ⟨before, content, after, whole, group, low, high, item, lowInteger, highInteger, long⟩

theorem sublist_of_mem_splitWhere {separates : CodePoint → Bool} {text part : Text}
    (member : part ∈ Text.splitWhere separates text) : part.Sublist text := by
  induction text generalizing part with
  | nil =>
      obtain rfl := List.mem_singleton.mp member
      exact List.nil_sublist _
  | cons c rest ih =>
      rw [Text.splitWhere] at member
      split at member
      · rcases List.mem_cons.mp member with rfl | later
        · exact List.nil_sublist _
        · exact (ih later).cons c
      · split at member
        · rw [List.mem_singleton.mp member]
          exact (List.nil_sublist rest).cons_cons c
        · next piece pieces cut =>
            rw [cut] at ih
            rcases List.mem_cons.mp member with rfl | later
            · exact (ih List.mem_cons_self).cons_cons c
            · exact (ih (List.mem_cons_of_mem piece later)).cons c

theorem HasOverlongGroup.length_lt {text : Text} (overlong : HasOverlongGroup text) :
    4300 < text.length := by
  obtain ⟨before, content, after, rfl, -, low, high, item, -, -, long⟩ := overlong
  have within := (sublist_of_mem_splitWhere item).length_le
  have lowWithin := length_takeSign_le low
  have highWithin := length_takeSign_le high
  simp only [List.length_append, List.length_cons] at within ⊢
  omega

end LineShell.Brace
