import LineShell.Proofs.Padding.Pass

namespace LineShell.Brace

open Escape

theorem linesOf_cons_append {first second : List Piece} {tail : Text}
    (behind : ∀ {count}, count ≤ resultLimit →
      linesOf count second = (linesOf count first).map (List.map (· ++ tail)))
    {count : Nat} (within : count ≤ resultLimit) (piece : Piece) :
    linesOf count (piece :: second) =
      (linesOf count (piece :: first)).map (List.map (· ++ tail)) := by
  rw [linesOf_cons within, linesOf_cons within]
  cases piece.offer with
  | error obstacle => rfl
  | ok texts =>
      dsimp only
      split
      · rfl
      · next fits =>
          rw [behind (Nat.le_of_not_lt fits)]
          cases linesOf (count * texts.length) first with
          | error obstacle => rfl
          | ok endings =>
              simp [Except.map, List.map_flatMap, Function.comp_def]

variable {lead tail : Text}

theorem linesOf_blanks_append (blank : Text.allBlank lead = true) (count : Nat) (text : Text) :
    linesOf count (pieces (lead ++ text)) =
      (linesOf count (pieces text)).map (List.map (lead ++ ·)) := by
  induction lead with
  | nil =>
      rw [List.nil_append]
      cases linesOf count (pieces text) <;> simp [Except.map]
  | cons c rest ih =>
      obtain ⟨here, others⟩ := List.forall_mem_cons.mp (Text.allBlank_eq_true_iff.mp blank)
      have noBrace : c ≠ '{' := Text.ne_of_isBlank here (by decide)
      have noDollar : c ≠ '$' := Text.ne_of_isBlank here (by decide)
      have behind := ih (Text.allBlank_eq_true_iff.mpr others)
      rw [pieces] at behind
      rw [List.cons_append, pieces, piecesAfter_cons (Text.ne_of_isBlank here (by decide))
        fun brace => absurd brace noBrace, linesOf_literal, decide_eq_false noDollar,
        Bool.false_and, behind]
      cases linesOf count (pieces text) <;> simp [Except.map, Function.comp_def]

theorem takeGroup?_of_notMem {run : Nat} {text : Text} (absent : .char '}' ∉ text) :
    takeGroup? run text = none := by
  cases found : takeGroup? run text with
  | none => rfl
  | some group =>
      have shape := takeGroup?_append found
      exact absurd (by rw [shape]; simp) absent

theorem linesOf_append_blanks (blank : Text.allBlank tail = true) {count : Nat}
    (within : count ≤ resultLimit) (run : Nat) (afterDollar : Bool) (text : Text) :
    linesOf count (piecesAfter run afterDollar (text ++ tail)) =
      (linesOf count (piecesAfter run afterDollar text)).map (List.map (· ++ tail)) := by
  -- Every piece but the last is the same with the blanks; these join the run that ends the text.
  fun_induction piecesAfter run afterDollar text generalizing count with
  | case1 run afterDollar =>
      have literal := literal_of_protectedAfter (protectedAfter_of_allBlank blank run) afterDollar
      rw [List.nil_append, linesOf_of_literal count literal, flatMap_piecesAfter, linesOf_literal]
      simp [linesOf, choices, combinations, Except.map]
  | case2 run afterDollar rest ih =>
      rw [List.cons_append, piecesAfter_backslash]
      exact ih within
  | case3 run afterDollar c rest plain opening content after found ih =>
      rw [List.cons_append, piecesAfter_opening plain opening, takeGroup?_append_some found]
      exact linesOf_cons_append ih within _
  | case4 run afterDollar c rest plain opening absent closing ih =>
      rw [List.cons_append, piecesAfter_opening plain opening,
        takeGroup?_append_none absent closing]
      dsimp only
      rw [if_pos (List.mem_append_left _ closing)]
      exact linesOf_cons_append ih within _
  | case5 run afterDollar c rest plain opening absent unclosed =>
      have noClosing : .char '}' ∉ rest ++ tail := by
        rw [List.mem_append, not_or]
        exact ⟨unclosed, Text.notMem_of_allBlank blank (by decide)⟩
      rw [List.cons_append, piecesAfter_opening plain opening, takeGroup?_of_notMem noClosing]
      dsimp only
      rw [if_neg noClosing]
      rfl
  | case6 run afterDollar c rest plain stays ih =>
      rw [List.cons_append, piecesAfter, if_neg plain, if_neg stays]
      exact linesOf_cons_append ih within _

theorem expand_around (blankLead : Text.allBlank lead = true)
    (blankTail : Text.allBlank tail = true)
    (text : Text) :
    expand (Text.around lead tail text) = (expand text).map (List.map (Text.around lead tail)) := by
  have lines : linesOf 1 (pieces (Text.around lead tail text)) =
      (linesOf 1 (pieces text)).map (List.map (Text.around lead tail)) := by
    rw [Text.around, linesOf_blanks_append blankLead, pieces,
      linesOf_append_blanks blankTail (by decide)]
    change Except.map _ (Except.map _ (linesOf 1 (pieces text))) = _
    cases linesOf 1 (pieces text) with
    | error obstacle => rfl
    | ok endings => simp [Except.map, Text.around, Function.comp_def]
  rw [expand_eq_linesOf, expand_eq_linesOf, lines]
  cases linesOf 1 (pieces text) with
  | ok endings => rfl
  | error obstacle => cases obstacle <;> rfl

end LineShell.Brace
