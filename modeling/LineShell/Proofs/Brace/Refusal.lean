import LineShell.Proofs.Brace.Choice

namespace LineShell.Brace

def IsOverlongRange (text : Text) : Prop :=
  ∃ low high, splitAtDots text = [low, high] ∧ isInteger low = true ∧ isInteger high = true ∧
    (Numeral.digitLimit < (Numeral.takeSign low).2.length ∨
      Numeral.digitLimit < (Numeral.takeSign high).2.length)

def HasOverlongRange (text : Text) : Prop :=
  ∃ run content, Piece.group run content ∈ pieces text ∧
    ∃ part ∈ Text.splitWhere (· = ',') content, IsOverlongRange part

theorem length_takeSign_le (text : Text) : (Numeral.takeSign text).2.length ≤ text.length := by
  unfold Numeral.takeSign
  split
  · exact Nat.le_succ _
  · exact Nat.le_succ _
  · exact Nat.le_refl _

theorem digitLimit_lt_of_integer? {text : Text} (refused : integer? text = none) :
    Numeral.digitLimit < (Numeral.takeSign text).2.length := by
  unfold integer? at refused
  dsimp only at refused
  split at refused
  · cases refused
  · next long => exact Nat.lt_of_not_le long

theorem integerRange_eq_tooManyDigits {low high : Text}
    (refused : integerRange low high = .error .tooManyDigits) :
    integer? low = none ∨ integer? high = none := by
  unfold integerRange at refused
  cases first : integer? low with
  | none => exact Or.inl rfl
  | some start =>
      cases last : integer? high with
      | none => exact Or.inr rfl
      | some stop =>
          rw [first, last] at refused
          dsimp only at refused
          split at refused <;> cases refused

theorem letterRange_ne_tooManyDigits (low high : CodePoint) :
    letterRange low high ≠ .error .tooManyDigits := by
  intro refused
  unfold letterRange at refused
  split at refused <;> cases refused

theorem isOverlongRange_of_range {text : Text} (refused : range text = .error .tooManyDigits) :
    IsOverlongRange text := by
  unfold range at refused
  split at refused
  · next low high cut =>
      split at refused
      · next integers =>
          obtain ⟨integerLow, integerHigh⟩ := (Bool.and_eq_true ..).mp integers
          refine ⟨low, high, cut, integerLow, integerHigh, ?_⟩
          rcases integerRange_eq_tooManyDigits refused with absent | absent
          · exact Or.inl (digitLimit_lt_of_integer? absent)
          · exact Or.inr (digitLimit_lt_of_integer? absent)
      · split at refused
        · split at refused
          · exact absurd refused (letterRange_ne_tooManyDigits _ _)
          · cases refused
        · cases refused
  · cases refused

theorem isOverlongRange_of_item {text : Text} (refused : item text = .error .tooManyDigits) :
    IsOverlongRange text := by
  unfold item at refused
  split at refused
  · exact isOverlongRange_of_range refused
  · cases refused

theorem exists_of_mapM_item {parts : List Text} {refusal : Refusal}
    (refused : parts.mapM item = .error refusal) : ∃ part ∈ parts, item part = .error refusal := by
  induction parts with
  | nil => cases refused
  | cons part rest ih =>
      rw [List.mapM_cons] at refused
      cases first : item part with
      | error found =>
          rw [first] at refused
          cases refused
          exact ⟨part, List.mem_cons_self, first⟩
      | ok texts =>
          cases others : rest.mapM item with
          | error found =>
              rw [first, others] at refused
              cases refused
              obtain ⟨later, member, found⟩ := ih others
              exact ⟨later, List.mem_cons_of_mem _ member, found⟩
          | ok lists =>
              rw [first, others] at refused
              cases refused

theorem exists_of_alternatives {content : Text}
    (refused : alternatives content = .error .tooManyDigits) :
    ∃ part ∈ Text.splitWhere (· = ',') content, IsOverlongRange part := by
  unfold alternatives at refused
  dsimp only at refused
  split at refused
  · cases refused
  · cases read : (Text.splitWhere (· = ',') content).mapM item with
    | ok lists =>
        rw [read] at refused
        cases refused
    | error refusal =>
        rw [read] at refused
        cases refused
        obtain ⟨part, member, found⟩ := exists_of_mapM_item read
        exact ⟨part, member, isOverlongRange_of_item found⟩

theorem hasOverlongRange_of_expand {text : Text} (refused : expand text = .error .tooLong) :
    HasOverlongRange text := by
  have stopped : choices 1 (pieces text) = .error .tooManyDigits := by
    unfold expand at refused
    split at refused
    · cases refused
    · next found => exact found
    · cases refused
  rcases choices_eq_error (by decide) stopped with ⟨piece, member, offered⟩ | ⟨impossible, -⟩
  · rcases Piece.refusal_cases offered with ⟨impossible, -⟩ | ⟨-, run, content, rfl, found⟩
    · cases impossible
    · exact ⟨run, content, member, exists_of_alternatives found⟩
  · cases impossible

end LineShell.Brace
