import Mathlib.Data.List.Chain
import Mathlib.Data.List.Range
import LineShell.Proofs.Brace.Location

/-!
What an item of a group stands for. A text without `..` stands for itself, and a range for the
numbers or the letters from one end to the other. Reading an item gives exactly these values; only
where letters would have to be counted over code points that are no characters is there nothing to
stand for.
-/

namespace LineShell.Brace

/-- Holds of the numbers from `low` to `high`, each of them one more, or each one less, than the one
before it. -/
structure Counts (low high : Int) (numbers : List Int) : Prop where
  first : numbers.head? = some low
  last : numbers.getLast? = some high
  steps : ∃ step, (step = 1 ∨ step = -1) ∧ numbers.IsChain fun m n => n = m + step

theorem eq_of_isChain {step low : Int} {numbers : List Int} (first : numbers.head? = some low)
    (chain : numbers.IsChain fun m n => n = m + step) :
    numbers = (List.range numbers.length).map fun (n : Nat) => low + step * n := by
  induction numbers generalizing low with
  | nil => cases first
  | cons m rest ih =>
      cases first
      cases rest with
      | nil => simp
      | cons n rest =>
          obtain ⟨rfl, others⟩ := List.isChain_cons_cons.mp chain
          have behind := ih rfl others
          rw [List.length_cons, List.range_succ_eq_map, List.map_cons, List.map_map, behind,
            List.length_map, List.length_range]
          congr 1
          · simp
          · refine List.map_congr_left fun k _ => ?_
            rw [Function.comp_apply, Int.natCast_succ, Int.mul_add, Int.mul_one, Int.add_assoc,
              Int.add_comm step]

theorem between_eq (low high : Int) :
    ∃ step, (step = 1 ∨ step = -1) ∧ high = low + step * (high - low).natAbs ∧
      between low high =
        (List.range ((high - low).natAbs + 1)).map fun (n : Nat) => low + step * n := by
  unfold between
  split
  · have distance : (high - low).toNat = (high - low).natAbs := by omega
    refine ⟨1, Or.inl rfl, by omega, ?_⟩
    rw [distance]
    simp only [Int.one_mul]
  · have distance : (low - high).toNat = (high - low).natAbs := by omega
    refine ⟨-1, Or.inr rfl, by omega, ?_⟩
    rw [distance]
    simp only [Int.neg_mul, Int.one_mul, Int.sub_eq_add_neg]

theorem counts_between (low high : Int) : Counts low high (between low high) := by
  obtain ⟨step, unit, reached, shape⟩ := between_eq low high
  rw [shape]
  constructor
  · simp [List.range_succ_eq_map]
  · rw [List.range_succ, List.map_append, List.map_singleton, List.getLast?_concat, ← reached]
  · refine ⟨step, unit, ?_⟩
    rw [List.isChain_map, List.isChain_range_succ]
    intro m _
    rw [Int.natCast_succ, Int.mul_add, Int.mul_one, Int.add_assoc]

theorem Counts.eq_between {low high : Int} {numbers : List Int}
    (counts : Counts low high numbers) : numbers = between low high := by
  obtain ⟨first, last, step, unit, chain⟩ := counts
  have shape := eq_of_isChain first chain
  cases length : numbers.length with
  | zero =>
      rw [List.length_eq_zero_iff.mp length] at first
      cases first
  | succ n =>
      rw [length] at shape
      rw [shape, List.range_succ, List.map_append, List.map_singleton, List.getLast?_concat,
        Option.some.injEq] at last
      obtain ⟨other, unit', reached, between⟩ := between_eq low high
      have distance : n = (high - low).natAbs := by
        rcases unit with rfl | rfl <;> omega
      rw [shape, between, ← distance]
      rw [← distance] at reached
      refine List.map_congr_left fun k member => ?_
      have within := List.mem_range.mp member
      rcases unit with rfl | rfl <;> rcases unit' with rfl | rfl <;> omega

theorem mem_between {low high n : Int} (member : n ∈ between low high) :
    low ≤ n ∧ n ≤ high ∨ high ≤ n ∧ n ≤ low := by
  unfold between at member
  split at member
  · obtain ⟨k, within, rfl⟩ := List.mem_map.mp member
    have bound := List.mem_range.mp within
    omega
  · obtain ⟨k, within, rfl⟩ := List.mem_map.mp member
    have bound := List.mem_range.mp within
    omega

/-- Holds of a text of ASCII digits, as many as a numeral may have and at least one. -/
structure IsNumeral (text : Text) : Prop where
  occupied : text ≠ []
  digits : ∀ c ∈ text, c.isDigit = true
  within : text.length ≤ 4300

/-- Holds of a numeral, with a sign in front or without one, and the integer that it spells. -/
inductive Spells : Text → Int → Prop
  | unsigned {text : Text} (numeral : IsNumeral text) : Spells text (Numeral.value text)
  | positive {text : Text} (numeral : IsNumeral text) :
      Spells (.char '+' :: text) (Numeral.value text)
  | negative {text : Text} (numeral : IsNumeral text) :
      Spells (.char '-' :: text) (-Numeral.value text)

theorem takeSign_of_isDigit {text : Text} (digits : ∀ c ∈ text, c.isDigit = true) :
    Numeral.takeSign text = (1, text) := by
  unfold Numeral.takeSign
  split
  · cases digits '+' List.mem_cons_self
  · cases digits '-' List.mem_cons_self
  · rfl

theorem isNumeral_iff {text : Text} :
    IsNumeral text ↔ (!text.isEmpty && text.all (·.isDigit)) = true ∧
      text.length ≤ Numeral.digitLimit := by
  simp only [Bool.and_eq_true, Bool.not_eq_true', List.isEmpty_eq_false_iff, List.all_eq_true]
  exact ⟨fun ⟨occupied, digits, within⟩ => ⟨⟨occupied, digits⟩, within⟩,
    fun ⟨⟨occupied, digits⟩, within⟩ => ⟨occupied, digits, within⟩⟩

theorem spells_iff_takeSign {text : Text} {n : Int} :
    Spells text n ↔ IsNumeral (Numeral.takeSign text).2 ∧
      n = (Numeral.takeSign text).1 * Numeral.value (Numeral.takeSign text).2 := by
  constructor
  · intro spelled
    cases spelled with
    | unsigned numeral =>
        rw [takeSign_of_isDigit numeral.digits]
        exact ⟨numeral, (Int.one_mul _).symm⟩
    | positive numeral => exact ⟨numeral, (Int.one_mul _).symm⟩
    | negative numeral => exact ⟨numeral, (Int.neg_one_mul _).symm⟩
  · rintro ⟨numeral, rfl⟩
    unfold Numeral.takeSign at numeral ⊢
    split at numeral
    · rw [Int.one_mul]
      exact .positive numeral
    · rw [Int.neg_one_mul]
      exact .negative numeral
    · rw [Int.one_mul]
      exact .unsigned numeral

theorem spells_iff {text : Text} {n : Int} :
    Spells text n ↔ isInteger text = true ∧ integer? text = some n := by
  rw [spells_iff_takeSign, isNumeral_iff, isInteger, integer?]
  dsimp only
  constructor
  · rintro ⟨⟨shape, within⟩, rfl⟩
    exact ⟨shape, if_pos within⟩
  · rintro ⟨shape, read⟩
    split at read
    · next within =>
        cases read
        exact ⟨⟨shape, within⟩, rfl⟩
    · cases read

theorem map_toNat_between (first last : CodePoint) :
    ((between first.toNat last.toNat).map fun n => CodePoint.ofNat n.toNat).map
      (fun c => (c.toNat : Int)) = between first.toNat last.toNat := by
  rw [List.map_map]
  refine (List.map_congr_left fun n member => ?_).trans (List.map_id _)
  have firstBound := first.toNat_lt
  have lastBound := last.toNat_lt
  have within := mem_between member
  rw [Function.comp_apply, CodePoint.toNat_ofNat (by omega), id_eq]
  omega

/-- Holds of an item and the values that it stands for, in order. -/
inductive ItemValues : Text → List Text → Prop
  | word {text : Text} (noRange : ¬[.char '.', .char '.'] <:+: text) : ItemValues text [text]
  | integers {low high : Text} {first last : Int} {numbers : List Int}
      (lowSpelled : Spells low first) (highSpelled : Spells high last)
      (near : (last - first).natAbs < 65536) (counted : Counts first last numbers) :
      ItemValues (low ++ .char '.' :: .char '.' :: high) (numbers.map Numeral.ofInt)
  | letters {first last : CodePoint} {letters : List CodePoint}
      (firstLetter : Text.isLetter first = true)
      (lastLetter : Text.isLetter last = true)
      (near : ((last.toNat : Int) - first.toNat).natAbs < 65536)
      (counted : Counts first.toNat last.toNat (letters.map fun c => (c.toNat : Int))) :
      ItemValues [first, '.', '.', last] (letters.map ([·]))

theorem splitAtDots_cons {c : CodePoint} (plain : c ≠ '.') {rest piece : Text} {pieces : List Text}
    (cut : splitAtDots rest = piece :: pieces) :
    splitAtDots (c :: rest) = (c :: piece) :: pieces := by
  cases rest with
  | nil =>
      cases cut
      rfl
  | cons d rest => simp [splitAtDots, plain, cut]

theorem splitAtDots_of_notMem {text : Text} (absent : .char '.' ∉ text) :
    splitAtDots text = [text] := by
  induction text with
  | nil => rfl
  | cons c rest ih =>
      have plain : c ≠ '.' := (List.ne_of_not_mem_cons absent).symm
      exact splitAtDots_cons plain (ih (List.not_mem_of_not_mem_cons absent))

theorem splitAtDots_append {front : Text} (absent : .char '.' ∉ front) (rest : Text) :
    splitAtDots (front ++ .char '.' :: .char '.' :: rest) = front :: splitAtDots rest := by
  induction front with
  | nil => simp [splitAtDots]
  | cons c front ih =>
      have plain : c ≠ '.' := (List.ne_of_not_mem_cons absent).symm
      exact splitAtDots_cons plain (ih (List.not_mem_of_not_mem_cons absent))

theorem Spells.dot_notMem {text : Text} {n : Int} (spelled : Spells text n) : .char '.' ∉ text := by
  have noDot {digits : Text} (numeral : IsNumeral digits) : .char '.' ∉ digits :=
    fun member => absurd (numeral.digits '.' member) (by decide)
  cases spelled with
  | unsigned numeral => exact noDot numeral
  | positive numeral => exact List.not_mem_cons_of_ne_of_not_mem (by decide) (noDot numeral)
  | negative numeral => exact List.not_mem_cons_of_ne_of_not_mem (by decide) (noDot numeral)

theorem ItemValues.item_eq_ok {text : Text} {values : List Text} (stands : ItemValues text values) :
    item text = .ok values := by
  rw [item_eq_ok_iff]
  cases stands with
  | word noRange => exact Or.inr ⟨noRange, rfl⟩
  | @integers low high first last numbers lowSpelled highSpelled near counted =>
      have parts : splitAtDots (low ++ .char '.' :: .char '.' :: high) = [low, high] := by
        rw [splitAtDots_append lowSpelled.dot_notMem, splitAtDots_of_notMem highSpelled.dot_notMem]
      obtain ⟨lowInteger, lowRead⟩ := spells_iff.mp lowSpelled
      obtain ⟨highInteger, highRead⟩ := spells_iff.mp highSpelled
      refine Or.inl ⟨⟨low, high, by simp⟩, range_eq_ok_iff.mpr (Or.inl ?_)⟩
      refine ⟨low, high, parts, lowInteger, highInteger, integerRange_eq_ok_iff.mpr ?_⟩
      exact ⟨first, last, lowRead, highRead, near, by rw [counted.eq_between]⟩
  | @letters first last letters firstLetter lastLetter near counted =>
      have noDot {c : CodePoint} (letter : Text.isLetter c = true) : .char '.' ∉ [c] := by
        rw [List.mem_singleton]
        rintro rfl
        exact absurd letter (by decide +kernel)
      have parts : splitAtDots [first, '.', '.', last] = [[first], [last]] := by
        rw [← splitAtDots_of_notMem (noDot lastLetter)]
        exact splitAtDots_append (noDot firstLetter) [last]
      have characters : letters.map ([·]) =
          (between first.toNat last.toNat).map fun n => [CodePoint.ofNat n.toNat] := by
        rw [← counted.eq_between, List.map_map]
        refine List.map_congr_left fun c _ => ?_
        rw [Function.comp_apply, Int.toNat_natCast, CodePoint.ofNat_toNat]
      refine Or.inl ⟨⟨[first], [last], rfl⟩, range_eq_ok_iff.mpr (Or.inr ?_)⟩
      exact ⟨first, last, parts, firstLetter, lastLetter,
        letterRange_eq_ok_iff.mpr ⟨near, characters⟩⟩

theorem itemValues_of_item {text : Text} {values : List Text} (read : item text = .ok values) :
    ItemValues text values := by
  rcases item_eq_ok_iff.mp read with ⟨-, found⟩ | ⟨noRange, rfl⟩
  · rcases range_eq_ok_iff.mp found with ⟨low, high, parts, lowInteger, highInteger, listed⟩ |
      ⟨first, last, parts, firstLetter, lastLetter, listed⟩
    · obtain ⟨start, stop, lowRead, highRead, near, rfl⟩ := integerRange_eq_ok_iff.mp listed
      rw [splitAtDots_eq_pair parts]
      exact .integers (spells_iff.mpr ⟨lowInteger, lowRead⟩)
        (spells_iff.mpr ⟨highInteger, highRead⟩)
        near (counts_between start stop)
    · obtain ⟨near, rfl⟩ := letterRange_eq_ok_iff.mp listed
      have shape : text = [first, '.', '.', last] := splitAtDots_eq_pair parts
      subst shape
      have codes := map_toNat_between first last
      have counted := counts_between first.toNat last.toNat
      rw [← codes] at counted
      have stands := ItemValues.letters firstLetter lastLetter near counted
      rwa [List.map_map] at stands
  · exact .word noRange

end LineShell.Brace
