import LineShell.Text.Digit

namespace LineShell.Text

namespace Ranges

theorem contains_of_within {ranges : Ranges} {range : Nat × Nat} {n : Nat}
    (ascending : ranges.Pairwise fun one other => one.1 ≤ other.1) (member : range ∈ ranges)
    (low : range.1 ≤ n) (high : n ≤ range.2) : ranges.contains n = true := by
  induction ranges with
  | nil => cases member
  | cons first rest ih =>
      obtain ⟨least, others⟩ := List.pairwise_cons.mp ascending
      rw [contains]
      rcases List.mem_cons.mp member with rfl | later
      · rw [if_neg (Nat.not_lt.mpr low), decide_eq_true high, Bool.true_or]
      · rw [if_neg (Nat.not_lt.mpr (Nat.le_trans (least range later) low)), ih others later,
          Bool.or_true]

theorem contains_of_lt_head {ranges : Ranges} {n : Nat}
    (low : ∀ range ∈ ranges.head?, n < range.1) : ranges.contains n = false := by
  cases ranges with
  | nil => rfl
  | cons range rest => exact if_pos (low range rfl)

theorem contains_of_dropWhile {ranges : Ranges} {bound n : Nat} (above : bound ≤ n)
    (absent : contains (ranges.dropWhile fun range => range.2 < bound) n = false) :
    ranges.contains n = false := by
  induction ranges with
  | nil => rfl
  | cons range rest ih =>
      by_cases below : range.2 < bound
      · rw [List.dropWhile_cons_of_pos (by simpa using below)] at absent
        rw [contains, ih absent, decide_eq_false (by omega)]
        exact ite_self false
      · rwa [List.dropWhile_cons_of_neg (by simpa using below)] at absent

def apart : Ranges → Ranges → Bool
  | [], _ => true
  | (first, last) :: rest, others =>
      let behind := others.dropWhile fun range => range.2 < first
      (behind.head?.all fun range => last < range.1) && apart rest behind

theorem contains_eq_false {ranges others : Ranges} {n : Nat} (separate : ranges.apart others = true)
    (member : ranges.contains n = true) : others.contains n = false := by
  induction ranges generalizing others with
  | nil => cases member
  | cons range rest ih =>
      rw [apart, Bool.and_eq_true] at separate
      rw [contains] at member
      split at member
      · cases member
      · next above =>
          apply contains_of_dropWhile (Nat.le_of_not_lt above)
          rcases Bool.or_eq_true_iff.mp member with within | later
          · have high := of_decide_eq_true within
            cases behind : others.dropWhile fun other => other.2 < range.1 with
            | nil => rfl
            | cons other _ =>
                have beyond := separate.1
                rw [behind] at beyond
                have least : range.2 < other.1 := of_decide_eq_true beyond
                rw [contains, if_pos (by omega)]
          · exact ih separate.2 later

end Ranges

def digitRanges : Ranges :=
  zeroDigits.map fun start => (start, start + 9)

theorem contains_digitRanges {c : CodePoint} (digit : isDecimalDigit c = true) :
    digitRanges.contains c.toNat = true := by
  obtain ⟨value, read⟩ := Option.isSome_iff_exists.mp digit
  obtain ⟨start, found, -⟩ := Option.map_eq_some_iff.mp read
  have member := List.mem_of_find?_eq_some found
  have within := List.find?_some found
  simp only [Bool.and_eq_true, decide_eq_true_eq] at within
  refine Ranges.contains_of_within (by decide +kernel) (List.mem_map_of_mem member) within.1 ?_
  exact Nat.le_of_lt_succ within.2

theorem contains_of_isDecimalDigit {ranges : Ranges} {c : CodePoint}
    (separate : digitRanges.apart ranges = true) (digit : isDecimalDigit c = true) :
    ranges.contains c.toNat = false :=
  Ranges.contains_eq_false separate (contains_digitRanges digit)

end LineShell.Text
