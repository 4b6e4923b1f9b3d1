import LineShell.Arithmetic.Expansion
import LineShell.Proofs.Arithmetic.Parenthesis
import LineShell.Proofs.Arithmetic.Seam
import LineShell.Proofs.BackslashRun

/-!
Expressions within expressions. A text with a value ends where its parentheses are balanced, so the
scan for its end finds it; and an inner expression whose value is a natural number counts in the
outer one as if it stood there between parentheses.
-/

namespace LineShell.Arithmetic

open Escape

theorem takeBalanced?_opening {depth : Nat} {rest expression after : Text}
    (found : takeBalanced? (depth + 1) rest = some (expression, after)) :
    takeBalanced? depth (.char '(' :: rest) = some (.char '(' :: expression, after) := by
  simp [takeBalanced?, found]

theorem takeBalanced?_closing {depth : Nat} {rest expression after : Text}
    (found : takeBalanced? depth rest = some (expression, after)) :
    takeBalanced? (depth + 1) (.char ')' :: rest) = some (.char ')' :: expression, after) := by
  simp [takeBalanced?, found]

theorem takeBalanced?_append {depth : Nat} (front : Text) {rest expression after : Text}
    (plain : ∀ c ∈ front, c ≠ '(' ∧ c ≠ ')')
    (found : takeBalanced? depth rest = some (expression, after)) :
    takeBalanced? depth (front ++ rest) = some (front ++ expression, after) := by
  induction front with
  | nil => exact found
  | cons c front ih =>
      obtain ⟨⟨noOpening, noClosing⟩, others⟩ := List.forall_mem_cons.mp plain
      simp [takeBalanced?, noOpening, noClosing, ih others]

/-- The parentheses that close what is open before a text may be followed by the two that end it. -/
theorem takeBalanced?_of_lexes {text : Text} {lexemes : List Lexeme} (lexed : Lexes text lexemes)
    {depth : Nat} (closed : levelAfter? depth lexemes = some 0) (after : Text) :
    takeBalanced? depth (text ++ .char ')' :: .char ')' :: after) = some (text, after) := by
  induction lexed generalizing depth with
  | done =>
      cases closed
      rfl
  | @blank c rest lexemes isBlank others ih =>
      have plain : ∀ d ∈ [c], d ≠ '(' ∧ d ≠ ')' := by
        rw [List.forall_mem_singleton]
        constructor
        · rintro rfl
          exact absurd isBlank (by decide)
        · rintro rfl
          exact absurd isBlank (by decide)
      exact takeBalanced?_append [c] plain (ih closed)
  | @operator c sign rest lexemes operates others ih =>
      cases operates with
      | opening => exact takeBalanced?_opening (ih closed)
      | closing =>
          cases depth with
          | zero => cases closed
          | succ depth => exact takeBalanced?_closing (ih closed)
      | _ =>
          exact takeBalanced?_append [_] (List.forall_mem_singleton.mpr (by decide)) (ih closed)
  | @literal literal rest lexemes longest wholeWithin decimalsWithin others ih =>
      have plain : ∀ d ∈ literal.text, d ≠ '(' ∧ d ≠ ')' := by
        intro d member
        have part := longest.wellFormed.mem_text member
        constructor
        · rintro rfl
          exact absurd part Operates.opening.not_isPart
        · rintro rfl
          exact absurd part Operates.closing.not_isPart
      rw [List.append_assoc]
      exact takeBalanced?_append literal.text plain (ih closed)

theorem evaluate_eq_value {text : Text} {lexemes : List Lexeme} {expr : Expr}
    (lexed : Lexes text lexemes) (derived : Derives .sum lexemes expr) :
    evaluate text = expr.value := by
  obtain ⟨tokens, read, rfl⟩ := Token.lexes_iff.mp lexed
  rw [evaluate, read]
  dsimp only
  rw [(Expr.derives_iff_ofTokens.mp derived).1]

theorem evaluate_eq_ok_iff {text : Text} {value : Rat} :
    evaluate text = .ok value ↔
      ∃ lexemes expr, Lexes text lexemes ∧ Derives .sum lexemes expr ∧ expr.Denotes value := by
  constructor
  · intro evaluated
    unfold evaluate at evaluated
    cases read : Token.read text with
    | error failure =>
        rw [read] at evaluated
        cases evaluated
    | ok tokens =>
        rw [read] at evaluated
        have denotes := Expr.value_eq_ok_iff.mp evaluated
        refine ⟨_, _, Token.lexes_iff.mpr ⟨tokens, read, rfl⟩, ?_, denotes⟩
        exact Expr.derives_iff_ofTokens.mpr ⟨rfl, denotes.faultless⟩
  · rintro ⟨lexemes, expr, lexed, derived, denotes⟩
    rw [evaluate_eq_value lexed derived]
    exact Expr.value_eq_ok_iff.mpr denotes

theorem numeral?_eq_some_iff {text written : Text} :
    numeral? text = some written ↔
      ∃ value, evaluate text = .ok value ∧ Decimal.ofRat? value = some written := by
  unfold numeral?
  cases evaluate text with
  | error failure => simp
  | ok value => simp

theorem digits_of_numeral? {text written : Text} {n : Nat} (evaluated : evaluate text = .ok n)
    (found : numeral? text = some written) :
    (Numeral.digits n).length ≤ Numeral.digitLimit ∧ written = Numeral.digits n := by
  obtain ⟨value, evaluated', asNumeral⟩ := numeral?_eq_some_iff.mp found
  cases evaluated.symm.trans evaluated'
  rw [Decimal.ofRat?_natCast] at asNumeral
  exact Numeral.ofNat?_eq_some_iff.mp asNumeral

theorem valueAt?_of_numeral? {text written : Text} (found : numeral? text = some written)
    (after : Text) :
    valueAt? (.char '(' :: .char '(' :: (text ++ .char ')' :: .char ')' :: after)) =
      some (written, after) := by
  obtain ⟨value, evaluated, -⟩ := numeral?_eq_some_iff.mp found
  obtain ⟨lexemes, expr, lexed, derived, -⟩ := evaluate_eq_ok_iff.mp evaluated
  have taken := takeBalanced?_of_lexes lexed (derived.balanced 0) after
  simp only [valueAt?, taken, found, Option.map_some]

/-- The digits of a number may stand in place of an expression in parentheses that has this number
as its value, where they do not touch another literal. -/
theorem evaluate_replace {before inner after : Text} {n : Nat} {value : Rat}
    (frontSeam : ∀ c ∈ before.getLast?, ¬Literal.IsPart c)
    (backSeam : ∀ c ∈ after.head?, ¬Literal.IsPart c)
    (within : (Numeral.digits n).length ≤ Numeral.digitLimit)
    (innerValue : evaluate inner = .ok n)
    (outerValue : evaluate (before ++ .char '(' :: (inner ++ .char ')' :: after)) = .ok value) :
    evaluate (before ++ (Numeral.digits n ++ after)) = .ok value := by
  obtain ⟨lexemes, whole, lexed, derived, denotes⟩ := evaluate_eq_ok_iff.mp outerValue
  obtain ⟨innerLexemes, part, innerLexed, inside, partDenotes⟩ := evaluate_eq_ok_iff.mp innerValue
  obtain ⟨first, second, rfl, frontLexed, rest⟩ := lexed.cut .opening
  obtain ⟨middle, last, rfl, middleLexed, backLexed⟩ := rest.cut .closing
  rw [middleLexed.unique innerLexed] at derived
  obtain ⟨other, replaced, same⟩ := inside.replaceable partDenotes derived first last rfl
  apply evaluate_eq_ok_iff.mpr
  refine ⟨_, other, ?_, replaced, (same value).mp denotes⟩
  exact frontLexed.append (backLexed.digits_append within backSeam) frontSeam

theorem reduceAfter_plain_append {front : Text} (plain : ∀ c ∈ front, c ≠ '$' ∧ c ≠ '\\')
    (rest : Text) : reduceAfter 0 (front ++ rest) = front ++ reduceAfter 0 rest := by
  induction front with
  | nil => rfl
  | cons c front ih =>
      obtain ⟨⟨noDollar, noBackslash⟩, others⟩ := List.forall_mem_cons.mp plain
      rw [List.cons_append, reduceAfter_cons noBackslash fun dollar => absurd dollar noDollar,
        ih others]
      rfl

theorem reduceAfter_of_plain {text : Text} (plain : ∀ c ∈ text, c ≠ '$' ∧ c ≠ '\\') :
    reduceAfter 0 text = text := by
  have passed := reduceAfter_plain_append plain []
  rwa [reduceAfter, backslashes_zero, List.append_nil] at passed

theorem reduceAfter_expression {rest text written after : Text}
    (found : numeral? text = some written)
    (reduced : reduceAfter 0 rest =
      .char '(' :: .char '(' :: (text ++ .char ')' :: .char ')' :: after)) :
    reduceAfter 0 (.char '$' :: rest) = written ++ after := by
  have value : valueAt? (reduceAfter 0 rest) = some (written, after) := by
    rw [reduced]
    exact valueAt?_of_numeral? found after
  exact reduceAfter_dollar rfl value

/-- A nested expression whose value is a natural number counts as if it stood between parentheses.
-/
theorem reduce_nested {before inner after : Text} {n : Nat} {value : Rat} {written : Text}
    (frontSeam : ∀ c ∈ before.getLast?, ¬Literal.IsPart c)
    (backSeam : ∀ c ∈ after.head?, ¬Literal.IsPart c)
    (innerValue : evaluate inner = .ok n) (innerWritten : (numeral? inner).isSome)
    (outerValue : evaluate (before ++ .char '(' :: (inner ++ .char ')' :: after)) = .ok value)
    (outerWritten : Decimal.ofRat? value = some written) :
    reduce ("$((".text ++ before ++ "$((".text ++ inner ++ "))".text ++ after ++
      "))".text) = written := by
  obtain ⟨numeral, innerFound⟩ := Option.isSome_iff_exists.mp innerWritten
  obtain ⟨within, rfl⟩ := digits_of_numeral? innerValue innerFound
  have outerFound : numeral? (before ++ (Numeral.digits n ++ after)) = some written :=
    numeral?_eq_some_iff.mpr
      ⟨value, evaluate_replace frontSeam backSeam within innerValue outerValue, outerWritten⟩
  -- What has a value holds neither dollars nor backslashes, so the sweep passes over it.
  obtain ⟨lexemes, whole, lexed, -⟩ := evaluate_eq_ok_iff.mp outerValue
  obtain ⟨beforePlain, behind⟩ := List.forall_mem_append.mp fun _ => lexed.ne_of_mem
  obtain ⟨innerPlain, behind⟩ := List.forall_mem_append.mp (List.forall_mem_cons.mp behind).2
  obtain ⟨-, afterPlain⟩ := List.forall_mem_cons.mp behind
  have front : ∀ c : CodePoint, c ∈ .char '(' :: .char '(' :: before → c ≠ '$' ∧ c ≠ '\\' := by
    simp only [List.forall_mem_cons]
    exact ⟨by decide, by decide, beforePlain⟩
  have back : ∀ c : CodePoint, c ∈ .char '(' :: .char '(' :: (inner ++ .char ')' :: .char ')' ::
      (after ++ [.char ')', .char ')'])) → c ≠ '$' ∧ c ≠ '\\' := by
    simp only [List.forall_mem_cons, List.forall_mem_append]
    exact ⟨by decide, by decide, innerPlain, by decide, by decide, afterPlain, by decide,
      by decide, List.forall_mem_nil _⟩
  have innerReduced : reduceAfter 0
      (.char '$' :: .char '(' :: .char '(' :: (inner ++ .char ')' :: .char ')' ::
      (after ++ [.char ')', .char ')']))) =
        Numeral.digits n ++ (after ++ [.char ')', .char ')']) := by
    apply reduceAfter_expression innerFound
    exact reduceAfter_of_plain back
  have outerReduced : reduceAfter 0
      (.char '$' :: (.char '(' :: .char '(' :: before ++ .char '$' :: .char '(' :: .char '(' ::
      (inner ++ .char ')' :: .char ')' :: (after ++ [.char ')', .char ')'])))) = written ++ [] := by
    apply reduceAfter_expression outerFound
    rw [reduceAfter_plain_append front, innerReduced]
    simp
  simpa [reduce, String.text] using outerReduced

/-- The nested expression is an exponent, and the whole value is a negative fraction. -/
theorem reduce_nested_in_exponent :
    let before : Text := ['-', '2', '^']
    let inner : Text := ['1', ' ', '+', ' ', '1']
    let after : Text := ['/', '8']
    (∀ c ∈ before.getLast?, ¬Literal.IsPart c) ∧ (∀ c ∈ after.head?, ¬Literal.IsPart c) ∧
      evaluate inner = .ok (2 : Nat) ∧ (numeral? inner).isSome ∧
      evaluate (before ++ .char '(' :: (inner ++ .char ')' :: after)) = .ok (-1 / 2) ∧
      Decimal.ofRat? (-1 / 2) = some "-0.5".text ∧
      reduce ("$((".text ++ before ++ "$((".text ++ inner ++ "))".text ++ after ++
        "))".text) = "-0.5".text := by
  intro before inner after
  have frontSeam : ∀ c ∈ before.getLast?, ¬Literal.IsPart c := by
    intro c last
    cases last
    decide
  have backSeam : ∀ c ∈ after.head?, ¬Literal.IsPart c := by
    intro c next
    cases next
    decide
  have innerValue : evaluate inner = .ok (2 : Nat) := by decide +kernel
  have innerWritten : (numeral? inner).isSome := by decide +kernel
  have outerValue : evaluate (before ++ .char '(' :: (inner ++ .char ')' :: after)) =
      .ok (-1 / 2) := by
    decide +kernel
  have outerWritten : Decimal.ofRat? (-1 / 2) = some "-0.5".text := by decide +kernel
  exact ⟨frontSeam, backSeam, innerValue, innerWritten, outerValue, outerWritten,
    reduce_nested frontSeam backSeam innerValue innerWritten outerValue outerWritten⟩

end LineShell.Arithmetic
