import Mathlib.Data.List.Forall2
import Mathlib.Data.List.Infix
import LineShell.Brace.Item
import LineShell.Proofs.Text.Word

/-!
What the content of a group is read to: a range, an item and a list of items each have texts exactly
where every part of them has, and these are the texts of the parts.
-/

namespace LineShell.Brace

theorem isInteger_of_isLetter {c : CodePoint} (letter : Text.isLetter c = true) :
    isInteger [c] = false := by
  have noDigit : c.isDigit = false := by
    rw [← Bool.not_eq_true]
    intro digit
    rw [Text.isLetter_of_isDigit digit] at letter
    cases letter
  unfold isInteger Numeral.takeSign
  split
  · next same =>
      cases same
      rfl
  · next same =>
      cases same
      rfl
  · simp [noDigit]

theorem integerRange_eq_ok_iff {low high : Text} {texts : List Text} :
    integerRange low high = .ok texts ↔ ∃ first last, integer? low = some first ∧
      integer? high = some last ∧ (last - first).natAbs < 65536 ∧
      texts = (between first last).map Numeral.ofInt := by
  unfold integerRange
  constructor
  · intro found
    split at found
    · next first last lowRead highRead =>
        split at found
        · next near =>
            cases found
            exact ⟨first, last, lowRead, highRead, of_decide_eq_true near, rfl⟩
        · cases found
    · cases found
  · rintro ⟨first, last, lowRead, highRead, near, rfl⟩
    rw [lowRead, highRead]
    exact if_pos (decide_eq_true near)

theorem letterRange_eq_ok_iff {low high : CodePoint} {texts : List Text} :
    letterRange low high = .ok texts ↔ ((high.toNat : Int) - low.toNat).natAbs < 65536 ∧
      texts = (between low.toNat high.toNat).map fun n => [CodePoint.ofNat n.toNat] := by
  unfold letterRange
  constructor
  · intro found
    split at found
    · next near =>
        cases found
        exact ⟨of_decide_eq_true near, rfl⟩
    · cases found
  · rintro ⟨near, rfl⟩
    exact if_pos (decide_eq_true near)

theorem range_eq_ok_iff {text : Text} {texts : List Text} :
    range text = .ok texts ↔
      (∃ low high, splitAtDots text = [low, high] ∧ isInteger low = true ∧
        isInteger high = true ∧ integerRange low high = .ok texts) ∨
      ∃ first last, splitAtDots text = [[first], [last]] ∧ Text.isLetter first = true ∧
        Text.isLetter last = true ∧ letterRange first last = .ok texts := by
  unfold range
  constructor
  · intro found
    split at found
    · next low high parts =>
        split at found
        · next integers =>
            obtain ⟨lowInteger, highInteger⟩ := Bool.and_eq_true_iff.mp integers
            exact Or.inl ⟨low, high, parts, lowInteger, highInteger, found⟩
        · next mixed =>
          split at found
          · next first last =>
              split at found
              · next letters =>
                  obtain ⟨firstLetter, lastLetter⟩ := Bool.and_eq_true_iff.mp letters
                  exact Or.inr ⟨first, last, parts, firstLetter, lastLetter, found⟩
              · cases found
          · cases found
    · cases found
  · rintro (⟨low, high, parts, lowInteger, highInteger, found⟩ |
      ⟨first, last, parts, firstLetter, lastLetter, found⟩)
    · rw [parts]
      dsimp only
      rw [lowInteger, highInteger]
      exact found
    · rw [parts]
      dsimp only
      rw [isInteger_of_isLetter firstLetter, firstLetter, lastLetter]
      exact found

theorem hasDots_iff {text : Text} : hasDots text = true ↔ [.char '.', .char '.'] <:+: text := by
  fun_induction hasDots text with
  | case1 rest => simp [List.infix_cons_iff]
  | case2 => simp
  | case3 c rest other ih =>
      have noneHere : ¬[.char '.', .char '.'] <+: c :: rest := by
        rintro ⟨behind, same⟩
        cases same
        exact other behind rfl rfl
      rw [ih, List.infix_cons_iff, or_iff_right noneHere]

theorem item_eq_ok_iff {text : Text} {texts : List Text} :
    item text = .ok texts ↔
      [.char '.', .char '.'] <:+: text ∧ range text = .ok texts ∨
        ¬[.char '.', .char '.'] <:+: text ∧ texts = [text] := by
  rw [← hasDots_iff, item]
  split
  · next dots => simp [dots]
  · next noDots => simp [noDots, eq_comm]

theorem length_splitWhere (separates : CodePoint → Bool) (text : Text) :
    (Text.splitWhere separates text).length = text.countP separates + 1 := by
  induction text with
  | nil => rfl
  | cons c rest ih =>
      rw [Text.splitWhere]
      split
      · next here => rw [List.length_cons, ih, List.countP_cons_of_pos here]
      · next other =>
          rw [List.countP_cons_of_neg other, ← ih]
          cases cut : Text.splitWhere separates rest with
          | nil => exact absurd cut (Text.splitWhere_ne_nil separates rest)
          | cons piece pieces => rfl

theorem mapM_item_eq_ok_iff {parts : List Text} {lists : List (List Text)} :
    parts.mapM item = .ok lists ↔
      List.Forall₂ (fun part texts => item part = .ok texts) parts lists := by
  induction parts generalizing lists with
  | nil =>
      rw [List.forall₂_nil_left_iff]
      exact ⟨fun read => (Except.ok.inj read).symm, fun none => by rw [none]; rfl⟩
  | cons part parts ih =>
      rw [List.mapM_cons, List.forall₂_cons_left_iff]
      constructor
      · intro read
        cases here : item part with
        | error refusal =>
            rw [here] at read
            cases read
        | ok texts =>
            cases others : parts.mapM item with
            | error refusal =>
                rw [here, others] at read
                cases read
            | ok rest =>
                rw [here, others] at read
                cases read
                exact ⟨texts, rest, rfl, ih.mp others, rfl⟩
      · rintro ⟨texts, rest, here, others, rfl⟩
        rw [here, ih.mpr others]
        rfl

theorem alternatives_eq_ok_iff {content : Text} {values : List Text} :
    alternatives content = .ok values ↔
      (.char ',' ∈ content ∨ [.char '.', .char '.'] <:+: content) ∧
        ∃ lists, List.Forall₂ (fun part texts => item part = .ok texts)
          (Text.splitWhere (· = ',') content) lists ∧ values = lists.flatten := by
  have single : (Text.splitWhere (· = ',') content).length = 1 ↔ .char ',' ∉ content := by
    rw [length_splitWhere, Nat.add_eq_right, List.countP_eq_zero]
    constructor
    · exact fun none member => none ',' member (decide_eq_true rfl)
    · rintro absent c member comma
      rw [of_decide_eq_true comma] at member
      exact absent member
  unfold alternatives
  dsimp only
  rw [← hasDots_iff]
  split
  · next unmarked =>
      rw [Bool.and_eq_true, decide_eq_true_eq, single, Bool.not_eq_true'] at unmarked
      simp [unmarked]
  · next marked =>
      have list : .char ',' ∈ content ∨ hasDots content = true := by
        by_contra absent
        rw [not_or, Bool.not_eq_true] at absent
        apply marked
        rw [decide_eq_true (single.mpr absent.1), absent.2]
        rfl
      simp only [list, true_and, ← mapM_item_eq_ok_iff]
      cases (Text.splitWhere (· = ',') content).mapM item with
      | error refusal => simp [Except.map]
      | ok lists => simp [Except.map, eq_comm]

end LineShell.Brace
