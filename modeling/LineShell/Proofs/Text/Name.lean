import Mathlib.Data.List.Basic
import Mathlib.Data.List.TakeWhile
import LineShell.Command.Line
import LineShell.Proofs.Text.Numeral
import LineShell.Text.Identifier

namespace LineShell

namespace Text

def isName : Text → Bool
  | [] => false
  | c :: rest => isWordCharacter c && !isDecimalDigit c && rest.all isWordCharacter

theorem isName_of_takeName? {text name after : Text}
    (found : takeName? text = some (name, after)) : isName name = true := by
  cases text with
  | nil => cases found
  | cons c rest =>
      rw [takeName?] at found
      split at found
      · next starts =>
          cases found
          rw [isName, starts, Bool.true_and]
          exact List.all_takeWhile
      · cases found

theorem isWordCharacter_of_isName {name : Text} (named : isName name = true) :
    ∀ c ∈ name, isWordCharacter c = true := by
  cases name with
  | nil => cases named
  | cons c rest =>
      simp only [isName, Bool.and_eq_true] at named
      exact List.forall_mem_cons.mpr ⟨named.1.1, List.all_eq_true.mp named.2⟩

theorem isWordCharacter_of_takeName? {text name after : Text}
    (found : takeName? text = some (name, after)) : ∀ c ∈ name, isWordCharacter c = true :=
  isWordCharacter_of_isName (isName_of_takeName? found)

theorem takeName?_of_isName {name : Text} (named : isName name = true) :
    takeName? name = some (name, []) := by
  cases name with
  | nil => cases named
  | cons c rest =>
      rw [isName, Bool.and_eq_true] at named
      have inside := List.all_eq_true.mp named.2
      rw [takeName?, if_pos named.1, List.takeWhile_eq_self_iff.mpr inside,
        List.dropWhile_eq_nil_iff.mpr inside]

theorem takeName?_append_mark {mark : CodePoint} (outside : isWordCharacter mark = false)
    (text after : Text) :
    takeName? (text ++ mark :: after) =
      (takeName? text).map fun (name, rest) => (name, rest ++ mark :: after) := by
  cases text with
  | nil =>
      rw [List.nil_append, takeName?, takeName?, if_neg (by simp [outside])]
      rfl
  | cons c text =>
      have ends : (text ++ mark :: after).takeWhile isWordCharacter =
          text.takeWhile isWordCharacter := by
        rw [List.takeWhile_append, List.takeWhile_cons_of_neg (by simp [outside]),
          List.append_nil]
        split
        · next whole => exact ((List.takeWhile_prefix _).eq_of_length whole).symm
        · rfl
      have left : (text ++ mark :: after).dropWhile isWordCharacter =
          text.dropWhile isWordCharacter ++ mark :: after := by
        rw [List.dropWhile_append, List.dropWhile_cons_of_neg (by simp [outside])]
        split
        · next nothing => rw [List.isEmpty_iff.mp nothing, List.nil_append]
        · rfl
      rw [List.cons_append, takeName?, takeName?, ends, left]
      split <;> rfl

theorem takeName?_append_cons {mark : CodePoint} (outside : isWordCharacter mark = false)
    {text after name rest : Text} (found : takeName? (text ++ mark :: after) = some (name, rest)) :
    ∃ left, rest = left ++ mark :: after ∧ left <:+ text := by
  rw [takeName?_append_mark outside] at found
  obtain ⟨⟨_, left⟩, named, same⟩ := Option.map_eq_some_iff.mp found
  cases same
  refine ⟨left, rfl, ?_⟩
  rw [(takeName?_append named).1]
  exact List.suffix_append _ left

/-- Holds of the characters on which word characters and those of identifiers may part. -/
def isDisputed (c : CodePoint) : Bool :=
  isOtherNumber c || letterLikeRanges.contains c.toNat || excludedLetterRanges.contains c.toNat ||
    combiningRanges.contains c.toNat

theorem continuesIdentifier_of_settled {c : CodePoint} (settled : isDisputed c = false) :
    continuesIdentifier c = isWordCharacter c := by
  simp only [isDisputed, Bool.or_eq_false_iff] at settled
  obtain ⟨⟨⟨noNumber, noLetterLike⟩, notExcluded⟩, noCombining⟩ := settled
  simp [continuesIdentifier, startsIdentifier, isWordCharacter, noNumber, noLetterLike, notExcluded,
    noCombining]

theorem isLetter_of_isDecimalDigit {c : CodePoint} (digit : isDecimalDigit c = true) :
    isLetter c = false :=
  contains_of_isDecimalDigit (by decide +kernel) digit

theorem startsIdentifier_of_settled {c : CodePoint} (settled : isDisputed c = false) :
    startsIdentifier c = (isWordCharacter c && !isDecimalDigit c) := by
  simp only [isDisputed, Bool.or_eq_false_iff] at settled
  obtain ⟨⟨⟨noNumber, noLetterLike⟩, notExcluded⟩, -⟩ := settled
  by_cases digit : isDecimalDigit c = true
  · have noLetter := isLetter_of_isDecimalDigit digit
    have noLowLine : c ≠ '_' := by
      rintro rfl
      exact absurd digit (by decide)
    simp [startsIdentifier, digit, noLetter, noLowLine, noLetterLike]
  · rw [Bool.not_eq_true] at digit
    simp [startsIdentifier, isWordCharacter, digit, noNumber, noLetterLike, notExcluded]

theorem isName_eq_isIdentifier {name : Text} (settled : ∀ c ∈ name, isDisputed c = false) :
    isName name = isIdentifier name := by
  cases name with
  | nil => rfl
  | cons c rest =>
      obtain ⟨first, others⟩ := List.forall_mem_cons.mp settled
      rw [isName, isIdentifier, startsIdentifier_of_settled first]
      congr 1
      rw [Bool.eq_iff_iff, List.all_eq_true, List.all_eq_true]
      exact forall₂_congr fun d member => by rw [continuesIdentifier_of_settled (others d member)]

end Text

namespace CommandLine

open Text

theorem assignment?_eq_some_iff {line name value : Text} :
    assignment? line = some (name, value) ↔
      line = name ++ .char '=' :: value ∧ isName name = true ∧
        ∀ c ∈ value.head?, isBlank c = false := by
  constructor
  · intro found
    unfold assignment? at found
    split at found
    · next taken =>
        have named := isName_of_takeName? taken
        obtain ⟨rebuilt, -⟩ := takeName?_append taken
        split at found
        · cases found
          exact ⟨rebuilt, named, fun c none => by cases none⟩
        · split at found
          · cases found
          · next solid =>
              cases found
              refine ⟨rebuilt, named, fun c first => ?_⟩
              cases first
              exact eq_false_of_ne_true solid
    · cases found
  · rintro ⟨rfl, named, solid⟩
    have outside : isWordCharacter '=' = false := by decide
    have taken : takeName? (name ++ .char '=' :: value) = some (name, .char '=' :: value) := by
      rw [takeName?_append_mark outside, takeName?_of_isName named]
      rfl
    rw [assignment?, taken]
    cases value with
    | nil => rfl
    | cons c rest =>
        have visible : isBlank c = false := solid c rfl
        simp only [visible]
        rfl

end CommandLine

end LineShell
