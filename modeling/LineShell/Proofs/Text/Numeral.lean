import LineShell.Proofs.Text.Ranges
import LineShell.Proofs.Text.Trimming
import LineShell.Text.Numeral

namespace LineShell

namespace Text

theorem isBlank_of_isDecimalDigit {c : CodePoint} (digit : isDecimalDigit c = true) :
    isBlank c = false :=
  contains_of_isDecimalDigit (by decide +kernel) digit

end Text

namespace Numeral

def IsPart (c : CodePoint) : Prop :=
  Text.isDecimalDigit c = true ∨ c = '_' ∨ c = '+' ∨ c = '-'

theorem isBlank_of_isPart {c : CodePoint} (part : IsPart c) : Text.isBlank c = false := by
  rcases part with digit | rfl | rfl | rfl
  · exact Text.isBlank_of_isDecimalDigit digit
  · decide
  · decide
  · decide

theorem ne_of_isPart {c d : CodePoint} (part : IsPart c)
    (other : Text.isDecimalDigit d = false ∧ d ≠ '_' ∧ d ≠ '+' ∧ d ≠ '-') : c ≠ d := by
  rintro rfl
  rcases part with digit | lowLine | plus | minus
  · rw [other.1] at digit
    cases digit
  · exact other.2.1 lowLine
  · exact other.2.2.1 plus
  · exact other.2.2.2 minus

theorem isDecimalDigit_of_map {c : CodePoint} {α : Type} {f : Nat → α} {value : α}
    (read : (Text.decimalDigit? c).map f = some value) : Text.isDecimalDigit c = true := by
  obtain ⟨digit, found, -⟩ := Option.map_eq_some_iff.mp read
  exact Option.isSome_iff_exists.mpr ⟨digit, found⟩

theorem isPart_of_digitValues? {text : Text} {values : List Nat}
    (read : digitValues? text = some values) : text ≠ [] ∧ ∀ c ∈ text, IsPart c := by
  fun_induction digitValues? text generalizing values with
  | case1 => cases read
  | case2 c =>
      refine ⟨List.cons_ne_nil c [], fun d member => ?_⟩
      rw [List.mem_singleton.mp member]
      exact Or.inl (isDecimalDigit_of_map read)
  | case3 c rest ih =>
      obtain ⟨first, found, read⟩ := Option.bind_eq_some_iff.mp read
      obtain ⟨others, behind, -⟩ := Option.bind_eq_some_iff.mp read
      have digit : IsPart c := Or.inl (Option.isSome_iff_exists.mpr ⟨first, found⟩)
      have lowLine : IsPart '_' := Or.inr (Or.inl rfl)
      exact ⟨List.cons_ne_nil c _,
        List.forall_mem_cons.mpr ⟨digit, List.forall_mem_cons.mpr ⟨lowLine, (ih behind).2⟩⟩⟩
  | case4 c rest single separated ih =>
      obtain ⟨first, found, read⟩ := Option.bind_eq_some_iff.mp read
      obtain ⟨others, behind, -⟩ := Option.bind_eq_some_iff.mp read
      have digit : IsPart c := Or.inl (Option.isSome_iff_exists.mpr ⟨first, found⟩)
      exact ⟨List.cons_ne_nil c _, List.forall_mem_cons.mpr ⟨digit, (ih behind).2⟩⟩

theorem isPart_of_toInt? {text : Text} {number : Int} (read : toInt? text = some number) :
    text ≠ [] ∧ ∀ c ∈ text, IsPart c := by
  have digits : ∃ values, digitValues? (takeSign text).2 = some values := by
    unfold toInt? at read
    dsimp only at read
    split at read
    · next values found => exact ⟨values, found⟩
    · cases read
  obtain ⟨values, found⟩ := digits
  have shape := isPart_of_digitValues? found
  unfold takeSign at shape
  split at shape
  · have plus : IsPart '+' := Or.inr (Or.inr (Or.inl rfl))
    exact ⟨List.cons_ne_nil _ _, List.forall_mem_cons.mpr ⟨plus, shape.2⟩⟩
  · have minus : IsPart '-' := Or.inr (Or.inr (Or.inr rfl))
    exact ⟨List.cons_ne_nil _ _, List.forall_mem_cons.mpr ⟨minus, shape.2⟩⟩
  · exact shape

end Numeral

end LineShell
