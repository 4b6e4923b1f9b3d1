import LineShell.Arithmetic.Token
import LineShell.Proofs.Arithmetic.Literal

/-!
The lexical structure of expressions, stated without the scan: a text lexes as blanks, operator
characters and longest literals of limited size. Reading the tokens of a text succeeds exactly if it
lexes, and yields its lexemes.
-/

namespace LineShell.Arithmetic

/-- Holds of the characters that are operators or parentheses and of their lexemes. -/
inductive Operates : CodePoint → Lexeme → Prop
  | plus : Operates '+' .plus
  | minus : Operates '-' .minus
  | times : Operates '*' .times
  | division : Operates '/' .over
  | remainder : Operates '%' .remainder
  | caret : Operates '^' .caret
  | opening : Operates '(' .opening
  | closing : Operates ')' .closing

/-- Holds of a text and the lexemes that it is written with. -/
inductive Lexes : Text → List Lexeme → Prop
  | done : Lexes [] []
  | blank {c : CodePoint} {rest : Text} {lexemes : List Lexeme} (isBlank : Text.isBlank c = true)
      (others : Lexes rest lexemes) : Lexes (c :: rest) lexemes
  | operator {c : CodePoint} {lexeme : Lexeme} {rest : Text} {lexemes : List Lexeme}
      (operates : Operates c lexeme) (others : Lexes rest lexemes) :
      Lexes (c :: rest) (lexeme :: lexemes)
  | literal {literal : Literal} {rest : Text} {lexemes : List Lexeme}
      (longest : literal.LongestAt (literal.text ++ rest))
      (wholeWithin : literal.whole.length ≤ Numeral.digitLimit)
      (decimalsWithin : literal.decimals.length ≤ Numeral.digitLimit)
      (others : Lexes rest lexemes) :
      Lexes (literal.text ++ rest) (.number literal.reading :: lexemes)

theorem operator?_eq_some_iff {c : CodePoint} {lexeme : Lexeme} :
    Token.operator? c = some lexeme ↔ Operates c lexeme := by
  constructor
  · intro found
    unfold Token.operator? at found
    split at found
    all_goals cases found
    all_goals constructor
  · intro operates
    cases operates <;> rfl

theorem Operates.isBlank {c : CodePoint} {lexeme : Lexeme} (operates : Operates c lexeme) :
    Text.isBlank c = false := by
  cases operates <;> rfl

theorem isBlank_of_isDigit {c : CodePoint} (digit : c.isDigit = true) : Text.isBlank c = false := by
  simp only [CodePoint.isDigit, Bool.and_eq_true, decide_eq_true_eq] at digit
  have low : 48 ≤ c.toNat := digit.1
  have high : c.toNat ≤ 57 := digit.2
  simp only [Text.isBlank, Text.blankRanges, Text.Ranges.contains]
  simp only [show ¬c.toNat < 9 by omega, show ¬c.toNat ≤ 13 by omega, show ¬c.toNat < 28 by omega,
    show ¬c.toNat ≤ 32 by omega, show c.toNat < 133 by omega, if_true, if_false, decide_false,
    Bool.or_false]

theorem operator?_of_isDigit {c : CodePoint} (digit : c.isDigit = true) :
    Token.operator? c = none := by
  unfold Token.operator?
  split
  all_goals first
    | contradiction
    | rfl

theorem Literal.WellFormed.start {literal : Literal} (valid : literal.WellFormed) (rest : Text) :
    ∃ c more, literal.text ++ rest = c :: more ∧ Text.isBlank c = false ∧
      Token.operator? c = none := by
  obtain ⟨c, more, starts⟩ := List.exists_cons_of_ne_nil valid.text_ne_nil
  refine ⟨c, more ++ rest, by rw [starts]; rfl, ?_⟩
  rcases valid.mem_text (c := c) (by rw [starts]; exact List.mem_cons_self) with digit | rfl
  · exact ⟨isBlank_of_isDigit digit, operator?_of_isDigit digit⟩
  · decide

namespace Token

theorem lexes_of_readFrom {position : Nat} {text : Text} {tokens : List Token}
    (read : readFrom position text = .ok tokens) : Lexes text (tokens.map Token.lexeme) := by
  fun_induction readFrom position text generalizing tokens with
  | case1 position =>
      cases read
      exact .done
  | case2 position c rest isBlank ih => exact .blank isBlank (ih read)
  | case3 position c rest noBlank lexeme isOperator ih =>
      cases others : readFrom (position + 1) rest with
      | error failure =>
          rw [others] at read
          cases read
      | ok found =>
          rw [others] at read
          cases read
          exact .operator (operator?_eq_some_iff.mp isOperator) (ih others)
  | case4 position c rest noBlank noOperator absent => cases read
  | case5 position c rest noBlank noOperator literal after found tooLong => cases read
  | case6 position c rest noBlank noOperator literal after found value hasValue ih =>
      obtain ⟨longest, rebuilt⟩ := Literal.take?_eq_some_iff.mp found
      obtain ⟨wholeWithin, decimalsWithin, rfl⟩ := Literal.value?_eq_some_iff.mp hasValue
      cases others : readFrom (position + literal.text.length) after with
      | error failure =>
          rw [others] at read
          cases read
      | ok tail =>
          rw [others] at read
          cases read
          rw [rebuilt] at longest ⊢
          exact .literal longest wholeWithin decimalsWithin (ih others)

theorem readFrom_blank {c : CodePoint} (isBlank : Text.isBlank c = true) (position : Nat)
    (rest : Text) :
    readFrom position (c :: rest) = readFrom (position + 1) rest := by
  rw [readFrom, if_pos isBlank]

theorem readFrom_operator {c : CodePoint} {lexeme : Lexeme} (operates : Operates c lexeme)
    (position : Nat) (rest : Text) :
    readFrom position (c :: rest) =
      (readFrom (position + 1) rest).map (⟨lexeme, position⟩ :: ·) := by
  have isOperator := operator?_eq_some_iff.mpr operates
  rw [readFrom, if_neg (by simp [operates.isBlank])]
  simp only [isOperator]

theorem readFrom_literal {literal : Literal} {rest : Text}
    (longest : literal.LongestAt (literal.text ++ rest))
    (wholeWithin : literal.whole.length ≤ Numeral.digitLimit)
    (decimalsWithin : literal.decimals.length ≤ Numeral.digitLimit) (position : Nat) :
    readFrom position (literal.text ++ rest) =
      (readFrom (position + literal.text.length) rest).map
        (⟨.number literal.reading, position⟩ :: ·) := by
  obtain ⟨c, more, starts, noBlank, noOperator⟩ := longest.wellFormed.start rest
  have found : Literal.take? (c :: more) = some (literal, rest) :=
    Literal.take?_eq_some_iff.mpr ⟨starts ▸ longest, starts.symm⟩
  have hasValue : literal.value? = some literal.reading :=
    Literal.value?_eq_some_iff.mpr ⟨wholeWithin, decimalsWithin, rfl⟩
  rw [starts, readFrom, if_neg (by simp [noBlank])]
  simp only [noOperator]
  split
  · next absent =>
      rw [found] at absent
      cases absent
  · next taken after found' =>
      rw [found] at found'
      cases found'
      simp only [hasValue]

theorem readFrom_of_lexes {text : Text} {lexemes : List Lexeme} (lexed : Lexes text lexemes)
    (position : Nat) :
    ∃ tokens, readFrom position text = .ok tokens ∧ tokens.map Token.lexeme = lexemes := by
  induction lexed generalizing position with
  | done => exact ⟨[], by rw [readFrom], rfl⟩
  | blank isBlank others ih =>
      obtain ⟨tokens, read, same⟩ := ih (position + 1)
      exact ⟨tokens, (readFrom_blank isBlank position _).trans read, same⟩
  | @operator c lexeme rest lexemes operates others ih =>
      obtain ⟨tokens, read, same⟩ := ih (position + 1)
      refine ⟨⟨lexeme, position⟩ :: tokens, ?_, by rw [List.map_cons, same]⟩
      rw [readFrom_operator operates, read]
      rfl
  | @literal literal rest lexemes longest wholeWithin decimalsWithin others ih =>
      obtain ⟨tokens, read, same⟩ := ih (position + literal.text.length)
      refine ⟨⟨.number literal.reading, position⟩ :: tokens, ?_, by rw [List.map_cons, same]⟩
      rw [readFrom_literal longest wholeWithin decimalsWithin, read]
      rfl

theorem lexes_iff {text : Text} {lexemes : List Lexeme} :
    Lexes text lexemes ↔ ∃ tokens, read text = .ok tokens ∧ tokens.map Token.lexeme = lexemes := by
  constructor
  · exact fun lexed => readFrom_of_lexes lexed 0
  · rintro ⟨tokens, read, rfl⟩
    exact lexes_of_readFrom read

end Token

end LineShell.Arithmetic
