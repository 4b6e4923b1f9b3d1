import Mathlib.Algebra.BigOperators.Group.List.Basic
import LineShell.Brace.Expansion
import LineShell.Proofs.Brace.Alternatives

/-!
What the pieces of a text offer and how the offers combine. The limit on the number of lines is
checked group by group; since no offer is empty, that comes to one check of the whole product.
-/

namespace LineShell.Brace

theorem combinations_append (first second : List (List Text)) :
    combinations (first ++ second) =
      (combinations first).flatMap fun start => (combinations second).map (start ++ ·) := by
  induction first with
  | nil => simp [combinations]
  | cons texts rest ih =>
      simp only [List.cons_append, combinations, ih, List.map_flatMap, List.flatMap_assoc,
        List.flatMap_map, List.map_map]
      congr 1
      funext text
      congr 1
      funext start
      congr 1
      funext ending
      exact (List.append_assoc text start ending).symm

theorem length_combinations (lists : List (List Text)) :
    (combinations lists).length = (lists.map List.length).prod := by
  induction lists with
  | nil => rfl
  | cons texts rest ih =>
      simp only [combinations, List.length_flatMap, List.length_map, ih, List.map_const',
        List.sum_replicate_nat, List.map_cons, List.prod_cons]

theorem combinations_concat_nil (lists : List (List Text)) :
    combinations (lists ++ [[[]]]) = combinations lists := by
  simp [combinations_append, combinations]

def Piece.offer : Piece → Except Obstacle (List Text)
  | .literal text => .ok [text]
  | .unclosed _ _ => .error .unclosed
  | .group run content =>
      match alternatives content with
      | .ok texts => .ok (texts.map (Escape.backslashes (run / 2) ++ ·))
      | .error .notAGroup => .ok [(Piece.group run content).text]
      | .error .tooManyDigits => .error .tooManyDigits

/-- The factor by which a piece multiplies the number of lines: the number of alternatives of a
valid group, and one for everything else. -/
def Piece.lines : Piece → Nat
  | .group _ content =>
      match alternatives content with
      | .ok texts => texts.length
      | .error _ => 1
  | _ => 1

def lineCount (pieces : List Piece) : Nat :=
  (pieces.map Piece.lines).prod

theorem lineCount_append (first second : List Piece) :
    lineCount (first ++ second) = lineCount first * lineCount second := by
  simp only [lineCount, List.map_append, List.prod_append]

theorem between_ne_nil (low high : Int) : between low high ≠ [] := by
  unfold between
  split <;> simp

theorem item_ne_nil {text : Text} {texts : List Text} (expanded : item text = .ok texts) :
    texts ≠ [] := by
  rcases item_eq_ok_iff.mp expanded with ⟨-, found⟩ | ⟨-, rfl⟩
  · rcases range_eq_ok_iff.mp found with ⟨low, high, -, -, -, listed⟩ |
      ⟨first, last, -, -, -, listed⟩
    · obtain ⟨start, stop, -, -, -, rfl⟩ := integerRange_eq_ok_iff.mp listed
      exact mt List.map_eq_nil_iff.mp (between_ne_nil start stop)
    · obtain ⟨-, rfl⟩ := letterRange_eq_ok_iff.mp listed
      exact mt List.map_eq_nil_iff.mp (between_ne_nil first.toNat last.toNat)
  · exact List.cons_ne_nil text []

theorem alternatives_ne_nil {content : Text} {texts : List Text}
    (expanded : alternatives content = .ok texts) : texts ≠ [] := by
  obtain ⟨-, lists, listed, rfl⟩ := alternatives_eq_ok_iff.mp expanded
  cases parts : Text.splitWhere (· = ',') content with
  | nil => exact absurd parts (Text.splitWhere_ne_nil _ _)
  | cons part rest =>
      rw [parts] at listed
      cases listed with
      | cons here others => exact List.append_ne_nil_of_left_ne_nil (item_ne_nil here) _

theorem Piece.lines_pos (piece : Piece) : 0 < piece.lines := by
  cases piece with
  | literal text => exact Nat.one_pos
  | unclosed run rest => exact Nat.one_pos
  | group run content =>
      rw [Piece.lines]
      cases expanded : alternatives content with
      | ok texts => exact List.length_pos_iff.mpr (alternatives_ne_nil expanded)
      | error refusal => exact Nat.one_pos

theorem lineCount_cons (piece : Piece) (rest : List Piece) :
    lineCount (piece :: rest) = piece.lines * lineCount rest :=
  List.prod_cons

theorem lineCount_pos (pieces : List Piece) : 0 < lineCount pieces := by
  induction pieces with
  | nil => exact Nat.one_pos
  | cons piece rest ih =>
      rw [lineCount_cons]
      exact Nat.mul_pos piece.lines_pos ih

/-- A piece offers its own text, or it is a valid group and offers its values. -/
theorem Piece.offer_cases {piece : Piece} {texts : List Text} (offered : piece.offer = .ok texts) :
    (texts = [piece.text] ∧ piece.lines = 1) ∨
      ∃ run content values, piece = .group run content ∧ alternatives content = .ok values ∧
        texts = values.map (Escape.backslashes (run / 2) ++ ·) := by
  cases piece with
  | literal text =>
      cases offered
      exact Or.inl ⟨rfl, rfl⟩
  | unclosed run rest => cases offered
  | group run content =>
      rw [Piece.offer] at offered
      rw [Piece.lines]
      cases found : alternatives content with
      | ok values =>
          rw [found] at offered
          cases offered
          exact Or.inr ⟨run, content, values, rfl, found, rfl⟩
      | error refusal =>
          rw [found] at offered
          cases refusal with
          | notAGroup =>
              cases offered
              exact Or.inl ⟨rfl, rfl⟩
          | tooManyDigits => cases offered

theorem Piece.refusal_cases {piece : Piece} {obstacle : Obstacle}
    (refused : piece.offer = .error obstacle) :
    (obstacle = .unclosed ∧ ∃ run rest, piece = .unclosed run rest) ∨
      obstacle = .tooManyDigits ∧ ∃ run content, piece = .group run content ∧
        alternatives content = .error .tooManyDigits := by
  cases piece with
  | literal text => cases refused
  | unclosed run rest =>
      cases refused
      exact Or.inl ⟨rfl, run, rest, rfl⟩
  | group run content =>
      rw [Piece.offer] at refused
      cases found : alternatives content with
      | ok values =>
          rw [found] at refused
          cases refused
      | error refusal =>
          rw [found] at refused
          cases refusal with
          | notAGroup => cases refused
          | tooManyDigits =>
              cases refused
              exact Or.inr ⟨rfl, run, content, rfl, found⟩

theorem Piece.length_offer {piece : Piece} {texts : List Text} (offered : piece.offer = .ok texts) :
    texts.length = piece.lines := by
  rcases Piece.offer_cases offered with ⟨rfl, single⟩ | ⟨run, content, values, rfl, found, rfl⟩
  · exact single.symm
  · rw [Piece.lines, found, List.length_map]

/-- One check for all kinds of pieces: a piece that is no valid group offers one text and keeps the
count. -/
theorem choices_cons {count : Nat} (within : count ≤ resultLimit) (piece : Piece)
    (rest : List Piece) :
    choices count (piece :: rest) =
      match piece.offer with
      | .error obstacle => .error obstacle
      | .ok texts =>
          if resultLimit < count * texts.length then .error .tooManyLines
          else (choices (count * texts.length) rest).map (texts :: ·) := by
  have single (text : Text) : ¬resultLimit < count * [text].length := by
    rw [List.length_singleton]
    omega
  have unchanged (text : Text) : count * [text].length = count := Nat.mul_one count
  cases piece with
  | literal text =>
      rw [choices, Piece.offer]
      dsimp only
      rw [if_neg (single text), unchanged]
  | unclosed run text => rfl
  | group run content =>
      rw [choices, Piece.offer]
      cases alternatives content with
      | ok texts =>
          dsimp only
          rw [List.length_map]
      | error refusal =>
          cases refusal with
          | notAGroup =>
              dsimp only
              rw [if_neg (single _), unchanged]
          | tooManyDigits => rfl

theorem choices_eq_ok_iff {count : Nat} (within : count ≤ resultLimit) {pieces : List Piece}
    {lists : List (List Text)} :
    choices count pieces = .ok lists ↔
      pieces.map Piece.offer = lists.map .ok ∧ count * lineCount pieces ≤ resultLimit := by
  induction pieces generalizing count lists with
  | nil =>
      constructor
      · intro chosen
        cases chosen
        exact ⟨rfl, by simpa [lineCount] using within⟩
      · rintro ⟨offered, _⟩
        rw [List.map_eq_nil_iff.mp offered.symm]
        rfl
  | cons piece rest ih =>
      rw [choices_cons within, lineCount_cons, ← Nat.mul_assoc, List.map_cons]
      cases offered : piece.offer with
      | error obstacle =>
          constructor
          · intro chosen
            cases chosen
          · rintro ⟨all, _⟩
            cases lists <;> cases all
      | ok texts =>
          dsimp only
          rw [Piece.length_offer offered]
          constructor
          · intro chosen
            split at chosen
            · cases chosen
            · next fits =>
                cases others : choices (count * piece.lines) rest with
                | error obstacle =>
                    rw [others] at chosen
                    cases chosen
                | ok restLists =>
                    rw [others] at chosen
                    cases chosen
                    obtain ⟨restOffered, restFits⟩ := (ih (Nat.le_of_not_lt fits)).mp others
                    exact ⟨by rw [restOffered]; rfl, restFits⟩
          · rintro ⟨all, fits⟩
            have fitsHere : count * piece.lines ≤ resultLimit :=
              Nat.le_trans (Nat.le_mul_of_pos_right _ (lineCount_pos rest)) fits
            obtain ⟨first, restLists, rfl, same, restOffered⟩ := List.map_eq_cons_iff.mp all.symm
            cases same
            rw [if_neg (Nat.not_lt.mpr fitsHere), (ih fitsHere).mpr ⟨restOffered.symm, fits⟩]
            rfl

/-- A choice fails because of an offer, or else because all groups together give too many lines. -/
theorem choices_eq_error {count : Nat} (within : count ≤ resultLimit) {pieces : List Piece}
    {obstacle : Obstacle} (stopped : choices count pieces = .error obstacle) :
    (∃ piece ∈ pieces, piece.offer = .error obstacle) ∨
      obstacle = .tooManyLines ∧ resultLimit < count * lineCount pieces := by
  induction pieces generalizing count with
  | nil => cases stopped
  | cons piece rest ih =>
      rw [choices_cons within] at stopped
      rw [lineCount_cons, ← Nat.mul_assoc]
      cases offered : piece.offer with
      | error refused =>
          rw [offered] at stopped
          cases stopped
          exact Or.inl ⟨piece, List.mem_cons_self, offered⟩
      | ok texts =>
          rw [offered] at stopped
          dsimp only at stopped
          rw [Piece.length_offer offered] at stopped
          split at stopped
          · next exceeds =>
              cases stopped
              refine Or.inr ⟨rfl, ?_⟩
              exact Nat.lt_of_lt_of_le exceeds (Nat.le_mul_of_pos_right _ (lineCount_pos rest))
          · next fits =>
              cases others : choices (count * piece.lines) rest with
              | error met =>
                  rw [others] at stopped
                  cases stopped
                  rcases ih (Nat.le_of_not_lt fits) others with ⟨later, member, refused⟩ | exceeds
                  · exact Or.inl ⟨later, List.mem_cons_of_mem _ member, refused⟩
                  · exact Or.inr exceeds
              | ok restLists =>
                  rw [others] at stopped
                  cases stopped

/-- The lines that some pieces stand for, `count` lines being offered by the pieces before. -/
def linesOf (count : Nat) (pieces : List Piece) : Except Obstacle (List Text) :=
  (choices count pieces).map combinations

theorem linesOf_cons {count : Nat} (within : count ≤ resultLimit) (piece : Piece)
    (rest : List Piece) :
    linesOf count (piece :: rest) =
      match piece.offer with
      | .error obstacle => .error obstacle
      | .ok texts =>
          if resultLimit < count * texts.length then .error .tooManyLines
          else (linesOf (count * texts.length) rest).map fun endings =>
            texts.flatMap fun text => endings.map (text ++ ·) := by
  rw [linesOf, choices_cons within]
  cases piece.offer with
  | error obstacle => rfl
  | ok texts =>
      dsimp only
      split
      · rfl
      · rw [linesOf]
        cases choices (count * texts.length) rest <;> rfl

theorem linesOf_literal (count : Nat) (text : Text) (rest : List Piece) :
    linesOf count (.literal text :: rest) = (linesOf count rest).map (List.map (text ++ ·)) := by
  rw [linesOf, linesOf, choices]
  cases choices count rest with
  | error obstacle => rfl
  | ok lists => simp [Except.map, combinations]

theorem linesOf_of_literal (count : Nat) {pieces : List Piece}
    (literal : ∀ piece ∈ pieces, ∃ kept, piece = .literal kept) :
    linesOf count pieces = .ok [pieces.flatMap Piece.text] := by
  induction pieces with
  | nil => rfl
  | cons piece rest ih =>
      obtain ⟨⟨kept, rfl⟩, others⟩ := List.forall_mem_cons.mp literal
      rw [linesOf_literal, ih others]
      rfl

theorem expand_eq_linesOf (text : Text) :
    expand text =
      match linesOf 1 (pieces text) with
      | .ok lines => .ok lines
      | .error .tooManyDigits => .error .tooLong
      | .error _ => .ok [text] := by
  rw [expand, linesOf]
  cases choices 1 (pieces text) with
  | ok lists => rfl
  | error obstacle => cases obstacle <;> rfl

theorem expand_of_literal {text : Text}
    (literal : ∀ piece ∈ pieces text, ∃ kept, piece = .literal kept) :
    expand text = .ok [text] := by
  rw [expand_eq_linesOf, linesOf_of_literal 1 literal, flatMap_pieces]

end LineShell.Brace
