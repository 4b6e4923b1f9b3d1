import LineShell.Proofs.Brace.Item

/-!
A text that is one group. It expands to the values of the items between its commas, one after the
other, if the content is a list or a range at all, each item has values and they are not too many;
otherwise, and behind an odd backslash run, the text stands for itself.
-/

namespace LineShell.Brace

open Escape

/-- Holds of the content of a group and the values of its items, one after the other. A content
without a comma and without a range has none. -/
structure GroupValues (content : Text) (values : List Text) : Prop where
  marked : .char ',' ∈ content ∨ [.char '.', .char '.'] <:+: content
  listed : ∃ lists, List.Forall₂ ItemValues (Text.splitWhere (· = ',') content) lists ∧
    values = lists.flatten

theorem GroupValues.alternatives_eq_ok {content : Text} {values : List Text}
    (stands : GroupValues content values) : alternatives content = .ok values := by
  obtain ⟨marked, lists, listed, rfl⟩ := stands
  refine alternatives_eq_ok_iff.mpr ⟨marked, lists, listed.imp fun _ _ => ?_, rfl⟩
  exact ItemValues.item_eq_ok

theorem forall₂_itemValues {parts : List Text} {lists : List (List Text)}
    (read : List.Forall₂ (fun part texts => item part = .ok texts) parts lists) :
    List.Forall₂ ItemValues parts lists := by
  induction read with
  | nil => exact .nil
  | cons here others ih =>
      exact .cons (itemValues_of_item here) ih

theorem groupValues_of_alternatives {content : Text} {values : List Text}
    (found : alternatives content = .ok values) :
    GroupValues content values := by
  obtain ⟨marked, lists, listed, rfl⟩ := alternatives_eq_ok_iff.mp found
  exact ⟨marked, lists, forall₂_itemValues listed, rfl⟩

theorem not_isOverlongRange_of_length_le {text : Text} (short : text.length ≤ 4300) :
    ¬IsOverlongRange text := by
  rintro ⟨low, high, cut, -, -, long⟩
  rw [splitAtDots_eq_pair cut, List.length_append, List.length_cons, List.length_cons] at short
  have lowWithin := length_takeSign_le low
  have highWithin := length_takeSign_le high
  unfold Numeral.digitLimit at long
  omega

theorem takeGroup?_of_braceless {content : Text} (noOpening : .char '{' ∉ content)
    (noClosing : .char '}' ∉ content) (run : Nat) (after : Text) :
    takeGroup? run (content ++ .char '}' :: after) = some (content, after) := by
  induction content generalizing run with
  | nil => rfl
  | cons c rest ih =>
      have notOpening : c ≠ '{' := (List.ne_of_not_mem_cons noOpening).symm
      have notClosing : c ≠ '}' := (List.ne_of_not_mem_cons noClosing).symm
      rw [List.cons_append, takeGroup?, if_neg notClosing, if_neg (by simp [notOpening]),
        ih (List.not_mem_of_not_mem_cons noOpening) (List.not_mem_of_not_mem_cons noClosing)]
      rfl

theorem pieces_group {run : Nat} (even : escapes run = false) {content : Text}
    (noOpening : .char '{' ∉ content) (noClosing : .char '}' ∉ content) :
    pieces (backslashes run ++ .char '{' :: content ++ [.char '}']) =
      [.group run content, .literal []] := by
  rw [pieces, List.append_assoc, piecesAfter_backslashes_append, List.cons_append, Nat.zero_add,
    piecesAfter_brace even, takeGroup?_of_braceless noOpening noClosing]
  dsimp only
  rw [piecesAfter]
  rfl

theorem literal_of_braceless {run : Nat} {text : Text} (noOpening : .char '{' ∉ text)
    (afterDollar : Bool) :
    ∀ piece ∈ piecesAfter run afterDollar text, ∃ kept, piece = .literal kept := by
  induction run, text using scan_induction generalizing afterDollar with
  | nil run => simp [piecesAfter]
  | backslash run rest ih =>
      rw [piecesAfter_backslash]
      exact ih (List.not_mem_of_not_mem_cons noOpening) false
  | plain run c rest plain ih =>
      rw [piecesAfter_cons plain fun brace => absurd brace (List.ne_of_not_mem_cons noOpening).symm]
      exact List.forall_mem_cons.mpr
        ⟨⟨_, rfl⟩, ih (List.not_mem_of_not_mem_cons noOpening) _⟩

theorem expand_escaped_group {run : Nat} (odd : escapes run = true) {content : Text}
    (noOpening : .char '{' ∉ content) :
    expand (backslashes run ++ .char '{' :: content ++ [.char '}']) =
      .ok [backslashes run ++ .char '{' :: content ++ [.char '}']] := by
  apply expand_of_literal
  rw [pieces, List.append_assoc, piecesAfter_backslashes_append, List.cons_append, Nat.zero_add,
    piecesAfter_cons (by decide) fun _ => Or.inl odd]
  have behind : .char '{' ∉ content ++ [.char '}'] := by simp [noOpening]
  exact List.forall_mem_cons.mpr ⟨⟨_, rfl⟩, literal_of_braceless behind _⟩

theorem combinations_of_one (texts : List Text) : combinations [texts, [[]]] = texts := by
  simp [combinations]

theorem expand_open_group {run : Nat} (even : escapes run = false) {content : Text}
    (noOpening : .char '{' ∉ content) (noClosing : .char '}' ∉ content) :
    expand (backslashes run ++ .char '{' :: content ++ [.char '}']) =
      match alternatives content with
      | .ok values =>
          if resultLimit < values.length then
            .ok [backslashes run ++ .char '{' :: content ++ [.char '}']]
          else .ok (values.map (backslashes (run / 2) ++ ·))
      | .error .notAGroup => .ok [backslashes run ++ .char '{' :: content ++ [.char '}']]
      | .error .tooManyDigits => .error .tooLong := by
  rw [expand, pieces_group even noOpening noClosing, choices]
  cases alternatives content with
  | ok values =>
      dsimp only
      rw [Nat.one_mul]
      by_cases beyond : resultLimit < values.length
      · rw [if_pos beyond, if_pos beyond]
      · rw [if_neg beyond, if_neg beyond]
        exact congrArg Except.ok (combinations_of_one _)
  | error refusal =>
      cases refusal with
      | notAGroup => exact congrArg Except.ok (combinations_of_one _)
      | tooManyDigits => rfl

/-- A single group behind `run` backslashes. The text stands for itself if the run is odd; else it
expands to the values of its content, each behind half of the run, if it has values and no more of
them than allowed, and if not, it stands for itself again. -/
theorem expand_group (run : Nat) {content : Text} (noOpening : .char '{' ∉ content)
    (noClosing : .char '}' ∉ content) :
    let text := backslashes run ++ .char '{' :: content ++ [.char '}']
    (run % 2 = 1 → expand text = .ok [text]) ∧
      (run % 2 = 0 →
        (∀ values, GroupValues content values → values.length ≤ 65536 →
          expand text = .ok (values.map (backslashes (run / 2) ++ ·))) ∧
        ((∀ part ∈ Text.splitWhere (· = ',') content, ¬IsOverlongRange part) →
          (∀ values, GroupValues content values → 65536 < values.length) →
            expand text = .ok [text])) := by
  intro text
  constructor
  · intro odd
    exact expand_escaped_group (decide_eq_true odd) noOpening
  · intro even
    have unescaped : escapes run = false := by simp [escapes, even]
    have expanded := expand_open_group unescaped noOpening noClosing
    constructor
    · intro values stands within
      rw [expanded, stands.alternatives_eq_ok]
      exact if_neg (Nat.not_lt.mpr within)
    · intro readable exceeds
      rw [expanded]
      cases found : alternatives content with
      | ok values =>
          have stands := groupValues_of_alternatives found
          exact if_pos (exceeds values stands)
      | error refusal =>
          cases refusal with
          | notAGroup => rfl
          | tooManyDigits =>
              obtain ⟨part, member, overlong⟩ := exists_of_alternatives found
              exact absurd overlong (readable part member)

/-- A list with an empty word between a range down and a range up, behind an odd and behind an even
run, and a range that is one number too long. -/
theorem expand_group_at_ranges :
    let content : Text := "2..-1,,a..c".text
    let values : List Text := ["2", "1", "0", "-1", "", "a", "b", "c"].map String.text
    let tooLong : Text := "0..65536".text
    (.char '{' ∉ content ∧ .char '}' ∉ content ∧ GroupValues content values ∧
      values.length ≤ 65536 ∧
      expand (backslashes 3 ++ .char '{' :: content ++ [.char '}']) =
        .ok [backslashes 3 ++ .char '{' :: content ++ [.char '}']] ∧
      expand (backslashes 4 ++ .char '{' :: content ++ [.char '}']) =
        .ok (values.map (backslashes 2 ++ ·))) ∧
    .char '{' ∉ tooLong ∧ .char '}' ∉ tooLong ∧
      (∀ part ∈ Text.splitWhere (· = ',') tooLong, ¬IsOverlongRange part) ∧
      (∀ values, GroupValues tooLong values → 65536 < values.length) ∧
      expand (backslashes 0 ++ .char '{' :: tooLong ++ [.char '}']) =
        .ok [backslashes 0 ++ .char '{' :: tooLong ++ [.char '}']] := by
  intro content values tooLong
  have noOpening : .char '{' ∉ content := by decide +kernel
  have noClosing : .char '}' ∉ content := by decide +kernel
  have stands : GroupValues content values := groupValues_of_alternatives (by decide +kernel)
  have noOpening' : .char '{' ∉ tooLong := by decide +kernel
  have noClosing' : .char '}' ∉ tooLong := by decide +kernel
  have readable : ∀ part ∈ Text.splitWhere (· = ',') tooLong, ¬IsOverlongRange part := by
    have short : ∀ part ∈ Text.splitWhere (· = ',') tooLong, part.length ≤ 4300 := by
      decide +kernel
    exact fun part member => not_isOverlongRange_of_length_le (short part member)
  have exceeds (values : List Text) (stands : GroupValues tooLong values) :
      65536 < values.length := by
    have refused : alternatives tooLong = .error .notAGroup := by decide +kernel
    cases refused.symm.trans stands.alternatives_eq_ok
  exact ⟨⟨noOpening, noClosing, stands, by decide +kernel,
      (expand_group 3 noOpening noClosing).1 rfl,
      ((expand_group 4 noOpening noClosing).2 rfl).1 values stands (by decide +kernel)⟩,
    noOpening', noClosing', readable, exceeds,
    ((expand_group 0 noOpening' noClosing').2 rfl).2 readable exceeds⟩

end LineShell.Brace
