import LineShell.Proofs.Arithmetic.Decimal
import LineShell.Proofs.Arithmetic.Lexing

namespace LineShell.Arithmetic

def Literal.IsPart (c : CodePoint) : Prop :=
  c.isDigit = true ∨ c = '.'

instance : DecidablePred Literal.IsPart :=
  fun c => inferInstanceAs (Decidable (c.isDigit = true ∨ c = '.'))

theorem Literal.stops_of_head? {literal : Literal} {after : Text}
    (other : ∀ c ∈ after.head?, ¬IsPart c) : literal.Stops after := by
  intro c next
  obtain ⟨noDigit, noPoint⟩ := not_or.mp (other c next)
  exact ⟨Bool.eq_false_of_not_eq_true noDigit, fun _ => noPoint⟩

theorem Operates.not_isPart {c : CodePoint} {lexeme : Lexeme} (operates : Operates c lexeme) :
    ¬Literal.IsPart c := by
  intro part
  rcases part with digit | point
  · cases operates <;> cases digit
  · cases operates <;> cases point

theorem Operates.unique {c : CodePoint} {first second : Lexeme} (one : Operates c first)
    (other : Operates c second) : first = second := by
  rw [← operator?_eq_some_iff] at one other
  exact Option.some_inj.mp (one.symm.trans other)

theorem Lexes.unique {text : Text} {first second : List Lexeme} (one : Lexes text first)
    (other : Lexes text second) : first = second := by
  obtain ⟨tokens, read, rfl⟩ := Token.lexes_iff.mp one
  obtain ⟨tokens', read', rfl⟩ := Token.lexes_iff.mp other
  rw [Except.ok.inj (read.symm.trans read')]

theorem Lexes.ne_of_mem {text : Text} {lexemes : List Lexeme} (lexed : Lexes text lexemes)
    {c : CodePoint}
    (member : c ∈ text) : c ≠ '$' ∧ c ≠ '\\' := by
  induction lexed with
  | done => cases member
  | blank isBlank others ih =>
      rcases List.mem_cons.mp member with rfl | inside
      · constructor
        · rintro rfl
          exact absurd isBlank (by decide)
        · rintro rfl
          exact absurd isBlank (by decide)
      · exact ih inside
  | operator operates others ih =>
      rcases List.mem_cons.mp member with rfl | inside
      · cases operates <;> decide
      · exact ih inside
  | literal longest wholeWithin decimalsWithin others ih =>
      rcases List.mem_append.mp member with here | inside
      · rcases longest.wellFormed.mem_text here with digit | rfl
        · constructor
          · rintro rfl
            cases digit
          · rintro rfl
            cases digit
        · decide
      · exact ih inside

/-- Two texts may stand one behind the other unless a literal would reach across the seam. -/
theorem Lexes.append_of_seam {front back : Text} {first second : List Lexeme}
    (before : Lexes front first) (behind : Lexes back second)
    (seam : (∀ c ∈ front.getLast?, ¬Literal.IsPart c) ∨ ∀ c ∈ back.head?, ¬Literal.IsPart c) :
    Lexes (front ++ back) (first ++ second) := by
  induction before with
  | done => exact behind
  | blank isBlank others ih =>
      apply Lexes.blank isBlank
      exact ih (seam.imp_left fun noPart c last => noPart c (List.mem_getLast?_cons last))
  | operator operates others ih =>
      apply Lexes.operator operates
      exact ih (seam.imp_left fun noPart c last => noPart c (List.mem_getLast?_cons last))
  | @literal literal rest lexemes longest wholeWithin decimalsWithin others ih =>
      have stops : literal.Stops (rest ++ back) := by
        cases rest with
        | nil =>
            have occupied := longest.wellFormed.text_ne_nil
            have last := longest.wellFormed.mem_text (List.getLast_mem occupied)
            rw [List.append_nil] at seam
            rcases seam with noPart | noPart
            · exact absurd last (noPart _ (List.getLast?_eq_some_getLast occupied))
            · exact Literal.stops_of_head? noPart
        | cons c rest => exact longest.stops
      rw [List.append_assoc]
      apply Lexes.literal (Literal.longestAt_of_stops longest.wellFormed stops) wholeWithin
        decimalsWithin
      exact ih (seam.imp_left fun noPart c last =>
        noPart c (List.mem_getLast?_append_of_mem_getLast? last))

theorem Lexes.append {front back : Text} {first second : List Lexeme} (before : Lexes front first)
    (behind : Lexes back second) (seam : ∀ c ∈ front.getLast?, ¬Literal.IsPart c) :
    Lexes (front ++ back) (first ++ second) :=
  before.append_of_seam behind (Or.inl seam)

theorem Lexes.append_operator {front back : Text} {first second : List Lexeme} {c : CodePoint}
    {lexeme : Lexeme} (before : Lexes front first) (operates : Operates c lexeme)
    (behind : Lexes back second) : Lexes (front ++ c :: back) (first ++ lexeme :: second) := by
  apply before.append_of_seam (.operator operates behind) (Or.inr ?_)
  intro d next
  cases next
  exact operates.not_isPart

/-- The digits of a number, as far as a literal may have so many, are a literal of that number. -/
theorem Lexes.digits_append {n : Nat} (within : (Numeral.digits n).length ≤ Numeral.digitLimit)
    {after : Text} {lexemes : List Lexeme} (behind : Lexes after lexemes)
    (seam : ∀ c ∈ after.head?, ¬Literal.IsPart c) :
    Lexes (Numeral.digits n ++ after) (.number n :: lexemes) := by
  have valid : (⟨Numeral.digits n, none⟩ : Literal).WellFormed :=
    ⟨fun c => Numeral.isDigit_of_mem_digits, fun c member => (nomatch member),
      Or.inl (Numeral.digits_ne_nil n)⟩
  have noDecimals : Numeral.value [] = 0 := rfl
  have read : (⟨Numeral.digits n, none⟩ : Literal).reading = n := by
    simp [Literal.reading, Literal.decimals, Numeral.value_digits, noDecimals]
  rw [← read]
  exact .literal (Literal.longestAt_of_stops valid (Literal.stops_of_head? seam)) within
    (Nat.zero_le _) behind

theorem Lexes.cut {front back : Text} {c : CodePoint} {lexeme : Lexeme} {lexemes : List Lexeme}
    (operates : Operates c lexeme) (whole : Lexes (front ++ c :: back) lexemes) :
    ∃ first second, lexemes = first ++ lexeme :: second ∧ Lexes front first ∧
      Lexes back second := by
  generalize shape : front ++ c :: back = text at whole
  induction whole generalizing front with
  | done =>
      apply absurd shape
      simp
  | @blank d rest lexemes isBlank others ih =>
      cases front with
      | nil =>
          cases shape
          rw [operates.isBlank] at isBlank
          cases isBlank
      | cons d front =>
          cases shape
          obtain ⟨first, second, same, before, behind⟩ := ih rfl
          exact ⟨first, second, same, .blank isBlank before, behind⟩
  | @operator d sign rest lexemes operates' others ih =>
      cases front with
      | nil =>
          cases shape
          exact ⟨[], lexemes, by rw [operates.unique operates']; rfl, .done, others⟩
      | cons d front =>
          cases shape
          obtain ⟨first, second, same, before, behind⟩ := ih rfl
          exact ⟨sign :: first, second, by rw [same]; rfl, .operator operates' before, behind⟩
  | @literal literal rest lexemes longest wholeWithin decimalsWithin others ih =>
      have inFront : ∃ more, front = literal.text ++ more ∧ rest = more ++ c :: back := by
        rcases List.append_eq_append_iff.mp shape with ⟨more, same, split⟩ | found
        · cases more with
          | nil => exact ⟨[], by simpa using same.symm, split.symm⟩
          | cons d more =>
              cases split
              have member : c ∈ literal.text := by
                rw [same]
                exact List.mem_append_right front List.mem_cons_self
              exact absurd (longest.wellFormed.mem_text member) operates.not_isPart
        · exact found
      obtain ⟨more, rfl, split⟩ := inFront
      obtain ⟨first, second, same, before, behind⟩ := ih split.symm
      have stops : literal.Stops more := by
        intro d next
        apply longest.stops
        rw [split, List.head?_append, next]
        rfl
      refine ⟨.number literal.reading :: first, second, by rw [same]; rfl, ?_, behind⟩
      exact .literal (Literal.longestAt_of_stops longest.wellFormed stops) wholeWithin
        decimalsWithin before

end LineShell.Arithmetic
