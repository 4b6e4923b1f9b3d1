import Mathlib.Data.List.TakeWhile
import Mathlib.Data.Rat.Lemmas
import Mathlib.Tactic.Positivity
import LineShell.Arithmetic.Literal

/-!
Number literals by their form: which texts are literals, which literal is the longest at a place and
what it denotes. Taking a literal from a text finds exactly the longest one.
-/

namespace LineShell.Arithmetic.Literal

def decimals (literal : Literal) : Text :=
  literal.places.getD []

/-- Digits with at most one point among them, and at least one digit. -/
structure WellFormed (literal : Literal) : Prop where
  whole : ∀ c ∈ literal.whole, c.isDigit = true
  decimals : ∀ c ∈ literal.decimals, c.isDigit = true
  occupied : literal.whole ≠ [] ∨ literal.decimals ≠ []

/-- Holds of a literal at the front of a text where no longer one is. -/
structure LongestAt (literal : Literal) (text : Text) : Prop where
  wellFormed : literal.WellFormed
  atFront : literal.text <+: text
  longest : ∀ other : Literal, other.WellFormed → other.text <+: text →
    other.text.length ≤ literal.text.length

def reading (literal : Literal) : Rat :=
  Numeral.value literal.whole + Numeral.value literal.decimals / 10 ^ literal.decimals.length

theorem WellFormed.mem_text {literal : Literal} (valid : literal.WellFormed) {c : CodePoint}
    (member : c ∈ literal.text) : c.isDigit = true ∨ c = '.' := by
  rcases literal with ⟨whole, _ | places⟩
  · exact Or.inl (valid.whole c member)
  · rcases List.mem_append.mp member with inWhole | behind
    · exact Or.inl (valid.whole c inWhole)
    · rcases List.mem_cons.mp behind with point | inPlaces
      · exact Or.inr point
      · exact Or.inl (valid.decimals c inPlaces)

theorem WellFormed.text_ne_nil {literal : Literal} (valid : literal.WellFormed) :
    literal.text ≠ [] := by
  rcases literal with ⟨whole, _ | places⟩
  · exact valid.occupied.resolve_right fun ne => ne rfl
  · simp [Literal.text]

theorem length_text (literal : Literal) :
    literal.whole.length + literal.decimals.length ≤ literal.text.length := by
  rcases literal with ⟨whole, _ | places⟩
  · exact Nat.le_refl _
  · simp [Literal.text, Literal.decimals]

private theorem count_point_digits {digits : Text} (all : ∀ c ∈ digits, c.isDigit = true) :
    digits.count (.char '.') = 0 := by
  rw [List.count_eq_zero]
  intro member
  have digit := all _ member
  contradiction

theorem WellFormed.count_point {literal : Literal} (valid : literal.WellFormed) :
    literal.text.count (.char '.') = if literal.places.isSome then 1 else 0 := by
  have noneInWhole := count_point_digits valid.whole
  have noneInDecimals := count_point_digits valid.decimals
  rcases literal with ⟨whole, _ | places⟩
  · exact noneInWhole
  · change (whole ++ .char '.' :: places).count (.char '.') = 1
    change places.count (.char '.') = 0 at noneInDecimals
    rw [List.count_append, List.count_cons_self, noneInWhole, noneInDecimals]

def Stops (literal : Literal) (after : Text) : Prop :=
  ∀ c ∈ after.head?, c.isDigit = false ∧ (literal.places = none → c ≠ '.')

theorem longestAt_of_stops {literal : Literal} {after : Text} (valid : literal.WellFormed)
    (stops : literal.Stops after) : literal.LongestAt (literal.text ++ after) := by
  refine ⟨valid, List.prefix_append .., fun other otherValid otherFront => ?_⟩
  by_contra longer
  obtain ⟨more, same⟩ := List.prefix_of_prefix_length_le (List.prefix_append literal.text after)
    otherFront (Nat.le_of_not_le longer)
  cases more with
  | nil =>
      rw [← same, List.append_nil] at longer
      exact longer (Nat.le_refl _)
  | cons c more =>
      rw [← same, List.prefix_append_right_inj] at otherFront
      obtain ⟨behind, rebuilt⟩ := otherFront
      have next : c ∈ after.head? := by rw [← rebuilt]; rfl
      obtain ⟨noDigit, noPoint⟩ := stops c next
      have inOther : c ∈ other.text := by rw [← same]; simp
      have point : c = '.' := by
        rcases otherValid.mem_text inOther with digit | point
        · rw [noDigit] at digit
          cases digit
        · exact point
      have second : literal.places.isSome := by
        rw [Option.isSome_iff_ne_none]
        exact fun absent => noPoint absent point
      have count := otherValid.count_point
      rw [← same, List.count_append, valid.count_point, if_pos second, point,
        List.count_cons_self] at count
      split at count <;> omega

private def extend (literal : Literal) (digit : CodePoint) : Literal :=
  match literal.places with
  | none => ⟨literal.whole ++ [digit], none⟩
  | some places => ⟨literal.whole, some (places ++ [digit])⟩

private theorem extend_text (literal : Literal) (digit : CodePoint) :
    (extend literal digit).text = literal.text ++ [digit] := by
  rcases literal with ⟨whole, _ | places⟩
  · rfl
  · simp [extend, Literal.text]

private theorem extend_wellFormed {literal : Literal} (valid : literal.WellFormed)
    {digit : CodePoint}
    (isDigit : digit.isDigit = true) : (extend literal digit).WellFormed := by
  rcases literal with ⟨whole, _ | places⟩
  · refine ⟨fun c member => ?_, fun c member => (nomatch member), Or.inl (by simp [extend])⟩
    rcases List.mem_append.mp member with old | new
    · exact valid.whole c old
    · rw [List.mem_singleton.mp new]
      exact isDigit
  · refine ⟨valid.whole, fun c member => ?_, Or.inr (by simp [extend, decimals])⟩
    rcases List.mem_append.mp member with old | new
    · exact valid.decimals c old
    · rw [List.mem_singleton.mp new]
      exact isDigit

theorem LongestAt.stops {literal : Literal} {after : Text}
    (longest : literal.LongestAt (literal.text ++ after)) : literal.Stops after := by
  intro c next
  obtain ⟨behind, rfl⟩ : ∃ behind, after = c :: behind := by
    cases after with
    | nil => cases next
    | cons d behind =>
        cases next
        exact ⟨behind, rfl⟩
  constructor
  · by_contra digit
    have isDigit : c.isDigit = true := by simpa using digit
    have bound := longest.longest (extend literal c) (extend_wellFormed longest.wellFormed isDigit)
      (by rw [extend_text]; exact ⟨behind, by simp⟩)
    rw [extend_text, List.length_append, List.length_singleton] at bound
    omega
  · rintro absent rfl
    rcases literal with ⟨whole, places⟩
    subst absent
    have valid : (⟨whole, some []⟩ : Literal).WellFormed :=
      ⟨longest.wellFormed.whole, fun c member => (nomatch member),
        Or.inl (longest.wellFormed.occupied.resolve_right fun ne => ne rfl)⟩
    have bound := longest.longest ⟨whole, some []⟩ valid ⟨behind, by simp [Literal.text]⟩
    simp [Literal.text] at bound

private theorem takeWhile_digits {digits rest : Text} (all : ∀ c ∈ digits, c.isDigit = true)
    (stop : ∀ c ∈ rest.head?, c.isDigit = false) :
    (digits ++ rest).takeWhile (·.isDigit) = digits ∧
      (digits ++ rest).dropWhile (·.isDigit) = rest := by
  rw [List.takeWhile_append_of_pos all, List.dropWhile_append_of_pos all]
  cases rest with
  | nil => simp
  | cons c rest => simp [stop c rfl]

theorem take?_of_stops {literal : Literal} {after : Text} (valid : literal.WellFormed)
    (stops : literal.Stops after) : take? (literal.text ++ after) = some (literal, after) := by
  rcases literal with ⟨whole, _ | places⟩
  · obtain ⟨taken, dropped⟩ := takeWhile_digits valid.whole fun c next => (stops c next).1
    have occupied : whole ≠ [] := valid.occupied.resolve_right fun ne => ne rfl
    change take? (whole ++ after) = _
    unfold take?
    dsimp only
    rw [taken, dropped]
    cases after with
    | nil => simp [occupied]
    | cons c after =>
        have noPoint : c ≠ '.' := (stops c rfl).2 rfl
        split
        · next same =>
            cases same
            contradiction
        · simp [occupied]
  · obtain ⟨taken, dropped⟩ := takeWhile_digits valid.decimals fun c next => (stops c next).1
    have pointStops : ∀ c ∈ (.char '.' :: (places ++ after)).head?, c.isDigit = false := by
      intro c next
      cases next
      rfl
    obtain ⟨wholeTaken, wholeDropped⟩ := takeWhile_digits valid.whole pointStops
    have shape : Literal.text ⟨whole, some places⟩ ++ after =
        whole ++ .char '.' :: (places ++ after) := by
      simp [Literal.text]
    have occupied : ¬(whole.isEmpty && places.isEmpty) = true := by
      rcases valid.occupied with some_ | some_
      · simp [some_]
      · change places ≠ [] at some_
        simp [some_]
    rw [shape]
    unfold take?
    dsimp only
    rw [wholeTaken, wholeDropped]
    change (places ++ after).takeWhile _ = places at taken
    change (places ++ after).dropWhile _ = after at dropped
    change (if (whole.isEmpty && ((places ++ after).takeWhile (·.isDigit)).isEmpty) = true then none
      else some (Literal.mk whole (some ((places ++ after).takeWhile (·.isDigit))),
        (places ++ after).dropWhile (·.isDigit))) = _
    rw [taken, dropped, if_neg occupied]

private theorem head?_dropWhile_digits (text : Text) :
    ∀ c ∈ (text.dropWhile (·.isDigit)).head?, c.isDigit = false := by
  intro c next
  have stopped := List.head?_dropWhile_not (·.isDigit) text
  rw [next] at stopped
  simpa using stopped

theorem stops_of_take? {text after : Text} {literal : Literal}
    (found : take? text = some (literal, after)) : literal.WellFormed ∧ literal.Stops after := by
  unfold take? at found
  dsimp only at found
  have wholeDigits : ∀ c ∈ text.takeWhile (·.isDigit), c.isDigit = true :=
    fun c member => List.mem_takeWhile_imp member
  split at found
  · next more pointed =>
      split at found
      · cases found
      · next occupied =>
          cases found
          have placeDigits : ∀ c ∈ more.takeWhile (·.isDigit), c.isDigit = true :=
            fun c member => List.mem_takeWhile_imp member
          rw [Bool.and_eq_true, not_and_or] at occupied
          refine ⟨⟨wholeDigits, placeDigits, ?_⟩, fun c next =>
            ⟨head?_dropWhile_digits more c next, fun absent => nomatch absent⟩⟩
          simpa [decimals] using occupied
  · next unpointed =>
      split at found
      · cases found
      · next occupied =>
          cases found
          refine ⟨⟨wholeDigits, fun c member => (nomatch member), Or.inl (by simpa using occupied)⟩,
            fun c next => ⟨head?_dropWhile_digits text c next, ?_⟩⟩
          rintro - rfl
          obtain ⟨behind, rest⟩ := List.head?_eq_some_iff.mp next
          exact unpointed behind rest

theorem take?_eq_none_iff {text : Text} :
    take? text = none ↔ text.takeWhile (·.isDigit) = [] ∧
      ∀ more, text.dropWhile (·.isDigit) = .char '.' :: more → more.takeWhile (·.isDigit) = [] := by
  unfold take?
  dsimp only
  split
  · next more pointed =>
      rw [pointed]
      simp
  · next unpointed =>
      simp only [List.isEmpty_iff, ite_eq_left_iff, reduceCtorEq, imp_false, not_not]
      exact (and_iff_left fun more pointed => absurd pointed (unpointed more)).symm

private theorem eq_nil_of_takeWhile_append {digits rest : Text}
    (all : ∀ c ∈ digits, c.isDigit = true)
    (nothing : (digits ++ rest).takeWhile (·.isDigit) = []) : digits = [] := by
  rw [List.takeWhile_append_of_pos all, List.append_eq_nil_iff] at nothing
  exact nothing.1

theorem WellFormed.take?_ne_none {literal : Literal} (valid : literal.WellFormed) (after : Text) :
    take? (literal.text ++ after) ≠ none := by
  intro absent
  obtain ⟨noWhole, noPlaces⟩ := take?_eq_none_iff.mp absent
  rcases literal with ⟨whole, _ | places⟩
  · have wholeAbsent : whole = [] := eq_nil_of_takeWhile_append valid.whole noWhole
    exact valid.occupied.elim (· wholeAbsent) (· rfl)
  · rw [Literal.text, List.append_assoc, List.cons_append] at noWhole noPlaces
    have wholeAbsent : whole = [] := eq_nil_of_takeWhile_append valid.whole noWhole
    subst wholeAbsent
    have placesAbsent : places = [] :=
      eq_nil_of_takeWhile_append valid.decimals (noPlaces (places ++ after) rfl)
    exact valid.occupied.elim (· rfl) (· placesAbsent)

theorem take?_eq_some_iff {text after : Text} {literal : Literal} :
    take? text = some (literal, after) ↔ literal.LongestAt text ∧ text = literal.text ++ after := by
  constructor
  · intro found
    obtain ⟨valid, stops⟩ := stops_of_take? found
    have rebuilt := take?_append found
    exact ⟨rebuilt ▸ longestAt_of_stops valid stops, rebuilt⟩
  · rintro ⟨longest, rfl⟩
    exact take?_of_stops longest.wellFormed longest.stops

theorem value_append (first second : Text) :
    Numeral.value (first ++ second) =
      10 ^ second.length * Numeral.value first + Numeral.value second := by
  rw [Numeral.value, List.map_append, Nat.ofDigitChars_append,
    Nat.ofDigitChars_eq_ofDigitChars_zero, List.length_map]
  rfl

theorem value_singleton {c : CodePoint} (digit : c.isDigit = true) :
    Numeral.value [c] < 10 ∧ CodePoint.char (Nat.digitChar (Numeral.value [c])) = c := by
  simp only [CodePoint.isDigit, Bool.and_eq_true, decide_eq_true_eq] at digit
  have low : 48 ≤ c.toNat := digit.1
  have high : c.toNat ≤ 57 := digit.2
  have zero : '0'.toNat = 48 := rfl
  have offset : Numeral.value [c] = c.toNat - 48 := by
    cases c with
    | char value =>
        change Nat.ofDigitChars 10 [value] 0 = value.toNat - 48
        rw [Nat.ofDigitChars_cons, Nat.ofDigitChars_nil, zero]
        omega
    | surrogate offset =>
        change 0xD800 + offset.val ≤ 57 at high
        omega
  have small : Numeral.value [c] < 10 := by omega
  refine ⟨small, ?_⟩
  apply CodePoint.toNat_inj.mp
  rw [CodePoint.toNat]
  rw [Nat.toNat_digitChar_of_lt_ten small]
  omega

theorem value_lt {digits : Text} (all : ∀ c ∈ digits, c.isDigit = true) :
    Numeral.value digits < 10 ^ digits.length := by
  induction digits using List.reverseRecOn with
  | nil => exact Nat.one_pos
  | append_singleton digits last ih =>
      have front := ih fun c member => all c (List.mem_append_left [last] member)
      have digit := (value_singleton (all last (by simp))).1
      rw [value_append, List.length_append, List.length_singleton, Nat.pow_one, Nat.pow_succ]
      omega

theorem mkRat_eq_reading (literal : Literal) :
    mkRat (Numeral.value (literal.whole ++ literal.decimals))
      (Nat.pow 10 literal.decimals.length) = literal.reading := by
  have positive : (10 ^ literal.decimals.length : Rat) ≠ 0 := by positivity
  rw [reading, value_append, Rat.mkRat_eq_div, Nat.pow_eq]
  push_cast
  rw [add_div, mul_div_cancel_left₀ _ positive]

/-- A literal has its decimal reading as its value, unless one of its parts has too many digits. -/
theorem value?_eq_some_iff {literal : Literal} {value : Rat} :
    literal.value? = some value ↔
      literal.whole.length ≤ Numeral.digitLimit ∧ literal.decimals.length ≤ Numeral.digitLimit ∧
        value = literal.reading := by
  change (if _ then some (mkRat (Numeral.value (literal.whole ++ literal.decimals))
    (Nat.pow 10 literal.decimals.length)) else none) = _ ↔ _
  rw [mkRat_eq_reading, Option.ite_none_right_eq_some, Option.some_inj, Bool.and_eq_true,
    decide_eq_true_eq, decide_eq_true_eq, and_assoc, eq_comm (a := value)]
  rfl

end LineShell.Arithmetic.Literal
