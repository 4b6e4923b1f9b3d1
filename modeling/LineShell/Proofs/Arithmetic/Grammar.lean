import LineShell.Arithmetic.Reading

/-!
The grammar of expressions, stated apart from the reader: sums and products group to the left,
powers to the right, and a power binds tighter than the sign before it. What the reader makes of
some tokens without a fault is derived from their lexemes, and what is derived from them it reads.
-/

namespace LineShell.Arithmetic

/-- The symbols of the grammar that stand for expressions, from loose to tight. -/
inductive Nonterminal
  | sum
  | product
  | signed
  | power
  | primary
  deriving DecidableEq, Repr

/-- Holds of the lexemes that join the operands of a sum or of a product. -/
inductive Joins : Nonterminal → Lexeme → Operator → Prop
  | plus : Joins .sum .plus .add
  | minus : Joins .sum .minus .subtract
  | times : Joins .product .times .multiply
  | division : Joins .product .over .divide
  | remainder : Joins .product .remainder .remainder

/-- Holds of a symbol, some lexemes derived from it and the expression that they spell. -/
inductive Derives : Nonterminal → List Lexeme → Expr → Prop
  | ofProduct {lexemes : List Lexeme} {expr : Expr} (only : Derives .product lexemes expr) :
      Derives .sum lexemes expr
  | sum {before after : List Lexeme} {left right : Expr} {sign : Lexeme} {operator : Operator}
      (first : Derives .sum before left) (joins : Joins .sum sign operator)
      (last : Derives .product after right) :
      Derives .sum (before ++ sign :: after) (.binary operator left right)
  | ofSigned {lexemes : List Lexeme} {expr : Expr} (only : Derives .signed lexemes expr) :
      Derives .product lexemes expr
  | product {before after : List Lexeme} {left right : Expr} {sign : Lexeme} {operator : Operator}
      (first : Derives .product before left) (joins : Joins .product sign operator)
      (last : Derives .signed after right) :
      Derives .product (before ++ sign :: after) (.binary operator left right)
  | negative {lexemes : List Lexeme} {operand : Expr} (signed : Derives .signed lexemes operand) :
      Derives .signed (.minus :: lexemes) (.negated operand)
  | positive {lexemes : List Lexeme} {operand : Expr} (signed : Derives .signed lexemes operand) :
      Derives .signed (.plus :: lexemes) operand
  | ofPower {lexemes : List Lexeme} {expr : Expr} (only : Derives .power lexemes expr) :
      Derives .signed lexemes expr
  | ofPrimary {lexemes : List Lexeme} {expr : Expr} (only : Derives .primary lexemes expr) :
      Derives .power lexemes expr
  | power {before after : List Lexeme} {base exponent : Expr}
      (first : Derives .primary before base) (last : Derives .signed after exponent) :
      Derives .power (before ++ .caret :: after) (.binary .power base exponent)
  | number (value : Rat) : Derives .primary [.number value] (.number value)
  | parentheses {lexemes : List Lexeme} {expr : Expr} (inner : Derives .sum lexemes expr) :
      Derives .primary (.opening :: lexemes ++ [.closing]) expr

theorem additive?_eq_some_iff {lexeme : Lexeme} {operator : Operator} :
    additive? lexeme = some operator ↔ Joins .sum lexeme operator := by
  constructor
  · intro found
    unfold additive? at found
    split at found
    · cases found
      exact .plus
    · cases found
      exact .minus
    · cases found
  · intro joins
    cases joins with
    | plus => rfl
    | minus => rfl

theorem multiplicative?_eq_some_iff {lexeme : Lexeme} {operator : Operator} :
    multiplicative? lexeme = some operator ↔ Joins .product lexeme operator := by
  constructor
  · intro found
    unfold multiplicative? at found
    split at found
    · cases found
      exact .times
    · cases found
      exact .division
    · cases found
      exact .remainder
    · cases found
  · intro joins
    cases joins with
    | times => rfl
    | division => rfl
    | remainder => rfl

theorem Derives.ne_nil {symbol : Nonterminal} {lexemes : List Lexeme} {expr : Expr}
    (derived : Derives symbol lexemes expr) : lexemes ≠ [] := by
  induction derived with
  | ofProduct _ ih => exact ih
  | sum _ _ _ _ _ => simp
  | ofSigned _ ih => exact ih
  | product _ _ _ _ _ => simp
  | negative _ _ => simp
  | positive _ _ => simp
  | ofPower _ ih => exact ih
  | ofPrimary _ ih => exact ih
  | power _ _ _ _ => simp
  | number value => simp
  | parentheses _ _ => simp

theorem Derives.front {symbol : Nonterminal} {lexemes : List Lexeme} {expr : Expr}
    (derived : Derives symbol lexemes expr) (tight : symbol = .power ∨ symbol = .primary) :
    ∃ front more, lexemes = front :: more ∧ front ≠ .minus ∧ front ≠ .plus := by
  induction derived with
  | ofPrimary _ ih => exact ih (Or.inr rfl)
  | power _ _ firstIh _ =>
      obtain ⟨front, more, rfl, noMinus, noPlus⟩ := firstIh (Or.inr rfl)
      exact ⟨front, _, List.cons_append, noMinus, noPlus⟩
  | number value => exact ⟨_, _, rfl, nofun, nofun⟩
  | parentheses _ _ => exact ⟨_, _, rfl, nofun, nofun⟩
  | _ => rcases tight with absent | absent <;> cases absent

def Expr.Faultless : Expr → Prop
  | .number _ => True
  | .negated operand => operand.Faultless
  | .binary _ left right => left.Faultless ∧ right.Faultless
  | .fault _ => False
  | .cutShort _ _ => False

theorem Derives.faultless {symbol : Nonterminal} {lexemes : List Lexeme} {expr : Expr}
    (derived : Derives symbol lexemes expr) : expr.Faultless := by
  induction derived with
  | ofProduct _ ih => exact ih
  | sum _ _ _ firstIh lastIh => exact ⟨firstIh, lastIh⟩
  | ofSigned _ ih => exact ih
  | product _ _ _ firstIh lastIh => exact ⟨firstIh, lastIh⟩
  | negative _ ih => exact ih
  | positive _ ih => exact ih
  | ofPower _ ih => exact ih
  | ofPrimary _ ih => exact ih
  | power _ _ firstIh lastIh => exact ⟨firstIh, lastIh⟩
  | number value => exact trivial
  | parentheses _ ih => exact ih

/-! ### What is read is derived -/

def Spells (symbol : Nonterminal) (tokens : List Token) (expr : Expr) : Prop :=
  expr.Faultless → Derives symbol (tokens.map Token.lexeme) expr

theorem Spells.sum {before after : List Token} {left right : Expr} {sign : Token}
    {operator : Operator} (first : Spells .sum before left)
    (joins : additive? sign.lexeme = some operator) (last : Spells .product after right) :
    Spells .sum (before ++ sign :: after) (.binary operator left right) := by
  intro faultless
  rw [List.map_append, List.map_cons]
  exact .sum (first faultless.1) (additive?_eq_some_iff.mp joins) (last faultless.2)

theorem Spells.product {before after : List Token} {left right : Expr} {sign : Token}
    {operator : Operator} (first : Spells .product before left)
    (joins : multiplicative? sign.lexeme = some operator) (last : Spells .signed after right) :
    Spells .product (before ++ sign :: after) (.binary operator left right) := by
  intro faultless
  rw [List.map_append, List.map_cons]
  exact .product (first faultless.1) (multiplicative?_eq_some_iff.mp joins) (last faultless.2)

theorem Spells.power {before after : List Token} {base exponent : Expr} {position : Nat}
    (first : Spells .primary before base) (last : Spells .signed after exponent) :
    Spells .power (before ++ ⟨.caret, position⟩ :: after) (.binary .power base exponent) := by
  intro faultless
  rw [List.map_append, List.map_cons]
  exact .power (first faultless.1) (last faultless.2)

theorem readClosing_spells (finish : Nat) {inner : Expr} {inside rest : List Token} {position : Nat}
    (spelled : Spells .sum inside inner) :
    Spells .primary (⟨.opening, position⟩ :: inside ++
      rest.take (readClosing finish inner rest).taken) (readClosing finish inner rest).expr := by
  unfold readClosing
  split
  · next finalPosition others =>
      intro faultless
      have derived := Derives.parentheses (spelled faultless)
      simpa using derived
  · intro faultless
    cases faultless

theorem take_signed (sign : Token) (more : List Token) (first second : Nat) :
    (sign :: more).take (1 + first + second) =
      sign :: more.take first ++ (more.drop first).take second := by
  rw [Nat.add_assoc, Nat.add_comm 1, List.take_succ_cons, List.take_add, List.cons_append]

mutual

theorem readSum_spells (finish : Nat) (tokens : List Token) :
    Spells .sum (tokens.take (readSum finish tokens).taken) (readSum finish tokens).expr := by
  rw [readSum, List.take_add]
  exact readTerms_spells finish _ _ _ fun faultless =>
    .ofProduct (readProduct_spells finish tokens faultless)
termination_by 6 * tokens.length + 5
decreasing_by
  · omega
  · simp only [List.length_drop]
    omega

-- The lexemes of `left` are carried along, since a sum groups to the left of where the reader is.
theorem readTerms_spells (finish : Nat) (left : Expr) (before tokens : List Token)
    (spelled : Spells .sum before left) :
    Spells .sum (before ++ tokens.take (readTerms finish left tokens).taken)
      (readTerms finish left tokens).expr := by
  cases tokens with
  | nil =>
      rw [readTerms, List.take_nil, List.append_nil]
      exact spelled
  | cons token more =>
      rw [readTerms]
      split
      · rw [List.take_zero, List.append_nil]
        exact spelled
      · next operator joins =>
          have joined := spelled.sum joins (readProduct_spells finish more)
          have whole := readTerms_spells finish _ _
            (more.drop (readProduct finish more).taken) joined
          rw [take_signed, ← List.append_assoc]
          exact whole
termination_by 6 * tokens.length
decreasing_by
  all_goals simp only [List.length_cons, List.length_drop]
  all_goals omega

theorem readProduct_spells (finish : Nat) (tokens : List Token) :
    Spells .product (tokens.take (readProduct finish tokens).taken)
      (readProduct finish tokens).expr := by
  rw [readProduct, List.take_add]
  exact readFactors_spells finish _ _ _ fun faultless =>
    .ofSigned (readSigned_spells finish tokens faultless)
termination_by 6 * tokens.length + 4
decreasing_by
  · omega
  · simp only [List.length_drop]
    omega

theorem readFactors_spells (finish : Nat) (left : Expr) (before tokens : List Token)
    (spelled : Spells .product before left) :
    Spells .product (before ++ tokens.take (readFactors finish left tokens).taken)
      (readFactors finish left tokens).expr := by
  cases tokens with
  | nil =>
      rw [readFactors, List.take_nil, List.append_nil]
      exact spelled
  | cons token more =>
      rw [readFactors]
      split
      · rw [List.take_zero, List.append_nil]
        exact spelled
      · next operator joins =>
          have joined := spelled.product joins (readSigned_spells finish more)
          have whole := readFactors_spells finish _ _
            (more.drop (readSigned finish more).taken) joined
          rw [take_signed, ← List.append_assoc]
          exact whole
termination_by 6 * tokens.length
decreasing_by
  all_goals simp only [List.length_cons, List.length_drop]
  all_goals omega

theorem readSigned_spells (finish : Nat) (tokens : List Token) :
    Spells .signed (tokens.take (readSigned finish tokens).taken)
      (readSigned finish tokens).expr := by
  rw [readSigned.eq_def]
  cases tokens with
  | nil => exact fun faultless => .ofPower (readPower_spells finish [] faultless)
  | cons token more =>
      obtain ⟨lexeme, position⟩ := token
      cases lexeme with
      | minus =>
          intro faultless
          dsimp only
          rw [Nat.add_comm 1, List.take_succ_cons, List.map_cons]
          exact .negative (readSigned_spells finish more faultless)
      | plus =>
          intro faultless
          dsimp only
          rw [Nat.add_comm 1, List.take_succ_cons, List.map_cons]
          exact .positive (readSigned_spells finish more faultless)
      | _ => exact fun faultless => .ofPower (readPower_spells finish _ faultless)
termination_by 6 * tokens.length + 2
decreasing_by
  all_goals simp only [List.length_cons, List.length_nil]
  all_goals omega

theorem readPower_spells (finish : Nat) (tokens : List Token) :
    Spells .power (tokens.take (readPower finish tokens).taken) (readPower finish tokens).expr := by
  rw [readPower, List.take_add]
  exact readExponent_spells finish _ _ _ (readPrimary_spells finish tokens)
termination_by 6 * tokens.length + 1
decreasing_by
  · omega
  · simp only [List.length_drop]
    omega

theorem readExponent_spells (finish : Nat) (base : Expr) (before tokens : List Token)
    (spelled : Spells .primary before base) :
    Spells .power (before ++ tokens.take (readExponent finish base tokens).taken)
      (readExponent finish base tokens).expr := by
  have alone : Spells .power (before ++ tokens.take 0) base := by
    rw [List.take_zero, List.append_nil]
    exact fun faultless => .ofPrimary (spelled faultless)
  rw [readExponent.eq_def]
  cases tokens with
  | nil => exact alone
  | cons token more =>
      obtain ⟨lexeme, position⟩ := token
      cases lexeme with
      | caret =>
          dsimp only
          rw [Nat.add_comm 1, List.take_succ_cons]
          exact spelled.power (readSigned_spells finish more)
      | _ => exact alone
termination_by 6 * tokens.length
decreasing_by
  simp only [List.length_cons]
  omega

theorem readPrimary_spells (finish : Nat) (tokens : List Token) :
    Spells .primary (tokens.take (readPrimary finish tokens).taken)
      (readPrimary finish tokens).expr := by
  rw [readPrimary.eq_def]
  cases tokens with
  | nil =>
      intro faultless
      cases faultless
  | cons token more =>
      obtain ⟨lexeme, position⟩ := token
      cases lexeme with
      | number value => exact fun _ => .number value
      | opening =>
          dsimp only
          rw [take_signed]
          exact readClosing_spells finish (readSum_spells finish more)
      | _ =>
          intro faultless
          cases faultless
termination_by 6 * tokens.length
decreasing_by
  simp only [List.length_cons]
  omega

end

/-! ### What is derived is read -/

def Nonterminal.read : Nonterminal → Nat → List Token → Reading
  | .sum => readSum
  | .product => readProduct
  | .signed => readSigned
  | .power => readPower
  | .primary => readPrimary

/-- What the reader of a symbol makes of the tokens behind an expression that it derives. -/
def Nonterminal.goOn : Nonterminal → Nat → Expr → List Token → Reading
  | .sum => readTerms
  | .product => readFactors
  | _ => fun _ expr _ => ⟨expr, 0⟩

/-- Holds of the lexemes that bind tighter than an expression of a symbol in front of them. -/
def Nonterminal.YieldsTo : Nonterminal → Lexeme → Prop
  | .sum, sign => sign = .caret ∨ (multiplicative? sign).isSome
  | .primary, _ => False
  | _, sign => sign = .caret

def Nonterminal.EndsBefore (symbol : Nonterminal) (rest : List Token) : Prop :=
  ∀ token ∈ rest.head?, ¬symbol.YieldsTo token.lexeme

def Reading.behind (count : Nat) (reading : Reading) : Reading :=
  ⟨reading.expr, count + reading.taken⟩

theorem Reading.behind_behind (outer inner : Nat) (reading : Reading) :
    (reading.behind inner).behind outer = reading.behind (outer + inner) := by
  rw [behind, behind, behind, Nat.add_assoc]

theorem Nonterminal.EndsBefore.tighter {rest : List Token}
    (ends : Nonterminal.sum.EndsBefore rest) : Nonterminal.product.EndsBefore rest :=
  fun token member isCaret => ends token member (Or.inl isCaret)

theorem endsBefore_sign {symbol : Nonterminal} {sign : Token} {operator : Operator}
    (joins : Joins symbol sign.lexeme operator) (rest : List Token) :
    symbol.EndsBefore (sign :: rest) := by
  intro token member yields
  cases member
  obtain ⟨lexeme, position⟩ := sign
  cases joins with
  | plus => rcases yields with isCaret | multiplies <;> contradiction
  | minus => rcases yields with isCaret | multiplies <;> contradiction
  | times => contradiction
  | division => contradiction
  | remainder => contradiction

theorem readSigned_of_power (finish : Nat) {tokens : List Token} {expr : Expr}
    (derived : Derives .power (tokens.map Token.lexeme) expr) (rest : List Token) :
    readSigned finish (tokens ++ rest) = readPower finish (tokens ++ rest) := by
  obtain ⟨front, more, spelled, noMinus, noPlus⟩ := derived.front (Or.inl rfl)
  obtain ⟨⟨lexeme, position⟩, others, rfl, rfl, -⟩ := List.map_eq_cons_iff.mp spelled
  rw [List.cons_append, readSigned.eq_def]
  cases lexeme with
  | minus => exact absurd rfl noMinus
  | plus => exact absurd rfl noPlus
  | _ => rfl

theorem readSum_of_first {finish : Nat} {left : Expr} {tokens rest : List Token}
    (first : readProduct finish (tokens ++ rest) = ⟨left, tokens.length⟩) :
    readSum finish (tokens ++ rest) = (readTerms finish left rest).behind tokens.length := by
  rw [readSum]
  simp only [first, List.drop_left]
  rfl

theorem readTerms_sign {finish : Nat} {left right : Expr} {sign : Token} {operator : Operator}
    {after rest : List Token} (joins : Joins .sum sign.lexeme operator)
    (last : readProduct finish (after ++ rest) = ⟨right, after.length⟩) :
    readTerms finish left (sign :: (after ++ rest)) =
      (readTerms finish (.binary operator left right) rest).behind (1 + after.length) := by
  rw [readTerms]
  simp only [additive?_eq_some_iff.mpr joins, last, List.drop_left]
  rfl

theorem readProduct_of_first {finish : Nat} {left : Expr} {tokens rest : List Token}
    (first : readSigned finish (tokens ++ rest) = ⟨left, tokens.length⟩) :
    readProduct finish (tokens ++ rest) = (readFactors finish left rest).behind tokens.length := by
  rw [readProduct]
  simp only [first, List.drop_left]
  rfl

theorem readFactors_sign {finish : Nat} {left right : Expr} {sign : Token} {operator : Operator}
    {after rest : List Token} (joins : Joins .product sign.lexeme operator)
    (last : readSigned finish (after ++ rest) = ⟨right, after.length⟩) :
    readFactors finish left (sign :: (after ++ rest)) =
      (readFactors finish (.binary operator left right) rest).behind (1 + after.length) := by
  rw [readFactors]
  simp only [multiplicative?_eq_some_iff.mpr joins, last, List.drop_left]
  rfl

theorem readFactors_of_endsBefore {finish : Nat} {left : Expr} {rest : List Token}
    (ends : Nonterminal.sum.EndsBefore rest) : readFactors finish left rest = ⟨left, 0⟩ := by
  rw [readFactors.eq_def]
  cases rest with
  | nil => rfl
  | cons token more =>
      have noFactor : multiplicative? token.lexeme = none := by
        rw [← Option.not_isSome_iff_eq_none]
        exact fun multiplies => ends token rfl (Or.inr multiplies)
      simp only [noFactor]

theorem readPower_of_first {finish : Nat} {base : Expr} {tokens rest : List Token}
    (first : readPrimary finish (tokens ++ rest) = ⟨base, tokens.length⟩) :
    readPower finish (tokens ++ rest) = (readExponent finish base rest).behind tokens.length := by
  rw [readPower]
  simp only [first, List.drop_left]
  rfl

theorem readExponent_of_endsBefore {finish : Nat} {base : Expr} {rest : List Token}
    (ends : Nonterminal.power.EndsBefore rest) : readExponent finish base rest = ⟨base, 0⟩ := by
  rw [readExponent.eq_def]
  split
  · exact absurd rfl (ends _ rfl)
  · rfl

theorem readExponent_caret {finish position : Nat} {base exponent : Expr} {after rest : List Token}
    (last : readSigned finish (after ++ rest) = ⟨exponent, after.length⟩) :
    readExponent finish base (⟨.caret, position⟩ :: (after ++ rest)) =
      ⟨.binary .power base exponent, 1 + after.length⟩ := by
  rw [readExponent]
  simp only [last]

theorem endsBefore_closing (position : Nat) (rest : List Token) :
    Nonterminal.sum.EndsBefore (⟨.closing, position⟩ :: rest) := by
  intro token member yields
  cases member
  rcases yields with isCaret | multiplies <;> contradiction

theorem readTerms_closing (finish position : Nat) (left : Expr) (rest : List Token) :
    readTerms finish left (⟨.closing, position⟩ :: rest) = ⟨left, 0⟩ := by
  rw [readTerms]
  rfl

theorem readPrimary_parentheses {finish : Nat} {inner : Expr} {inside rest : List Token}
    {opening closing : Nat}
    (whole : readSum finish (inside ++ ⟨.closing, closing⟩ :: rest) = ⟨inner, inside.length⟩) :
    readPrimary finish (⟨.opening, opening⟩ :: (inside ++ ⟨.closing, closing⟩ :: rest)) =
      ⟨inner, 1 + inside.length + 1⟩ := by
  rw [readPrimary]
  simp only [whole, List.drop_left]
  rfl

/-- What is derived from the lexemes of some tokens is read from them, and the reader goes on. -/
theorem read_of_derives (finish : Nat) {symbol : Nonterminal} {lexemes : List Lexeme} {expr : Expr}
    (derived : Derives symbol lexemes expr) {tokens : List Token} (rest : List Token)
    (spelled : tokens.map Token.lexeme = lexemes) (ends : symbol.EndsBefore rest) :
    symbol.read finish (tokens ++ rest) =
      (symbol.goOn finish expr rest).behind tokens.length := by
  induction derived generalizing tokens rest with
  | ofProduct only ih =>
      have first := ih rest spelled ends.tighter
      rw [Nonterminal.goOn, readFactors_of_endsBefore ends] at first
      exact readSum_of_first first
  | @sum _ _ left right _ _ first joins last firstIh lastIh =>
      obtain ⟨before, behind, rfl, firstSpelled, behindSpelled⟩ := List.map_eq_append_iff.mp spelled
      obtain ⟨sign, after, rfl, rfl, lastSpelled⟩ := List.map_eq_cons_iff.mp behindSpelled
      have firstRead : readSum finish (before ++ sign :: (after ++ rest)) = _ :=
        firstIh _ firstSpelled (endsBefore_sign joins _)
      have lastRead := lastIh rest lastSpelled ends.tighter
      rw [Nonterminal.goOn, readFactors_of_endsBefore ends] at lastRead
      rw [List.append_assoc, List.cons_append, Nonterminal.read, firstRead, Nonterminal.goOn,
        readTerms_sign joins lastRead, Reading.behind_behind, List.length_append, List.length_cons,
        Nat.add_comm 1]
  | ofSigned only ih => exact readProduct_of_first (ih rest spelled ends)
  | @product _ _ left right _ _ first joins last firstIh lastIh =>
      obtain ⟨before, behind, rfl, firstSpelled, behindSpelled⟩ := List.map_eq_append_iff.mp spelled
      obtain ⟨sign, after, rfl, rfl, lastSpelled⟩ := List.map_eq_cons_iff.mp behindSpelled
      have firstRead : readProduct finish (before ++ sign :: (after ++ rest)) = _ :=
        firstIh _ firstSpelled (endsBefore_sign joins _)
      have lastRead : readSigned finish (after ++ rest) = ⟨right, after.length⟩ :=
        lastIh rest lastSpelled ends
      rw [List.append_assoc, List.cons_append, Nonterminal.read, firstRead, Nonterminal.goOn,
        readFactors_sign joins lastRead, Reading.behind_behind, List.length_append,
        List.length_cons, Nat.add_comm 1]
  | @negative _ operand signed ih =>
      obtain ⟨⟨_, position⟩, others, rfl, rfl, othersSpelled⟩ := List.map_eq_cons_iff.mp spelled
      have read : readSigned finish (others ++ rest) = ⟨operand, others.length⟩ :=
        ih rest othersSpelled ends
      rw [List.cons_append, Nonterminal.read, readSigned, read, List.length_cons, Nat.add_comm]
      rfl
  | @positive _ operand signed ih =>
      obtain ⟨⟨_, position⟩, others, rfl, rfl, othersSpelled⟩ := List.map_eq_cons_iff.mp spelled
      have read : readSigned finish (others ++ rest) = ⟨operand, others.length⟩ :=
        ih rest othersSpelled ends
      rw [List.cons_append, Nonterminal.read, readSigned, read, List.length_cons, Nat.add_comm]
      rfl
  | ofPower only ih =>
      subst spelled
      rw [Nonterminal.read, readSigned_of_power finish only]
      exact ih rest rfl ends
  | @ofPrimary _ expr only ih =>
      have first : readPrimary finish (tokens ++ rest) = ⟨expr, tokens.length⟩ :=
        ih rest spelled (fun _ _ => id)
      rw [Nonterminal.read, readPower_of_first first, readExponent_of_endsBefore ends]
      rfl
  | @power _ _ base exponent first last firstIh lastIh =>
      obtain ⟨before, behind, rfl, firstSpelled, behindSpelled⟩ := List.map_eq_append_iff.mp spelled
      obtain ⟨⟨_, position⟩, after, rfl, rfl, lastSpelled⟩ := List.map_eq_cons_iff.mp behindSpelled
      have firstRead : readPrimary finish (before ++ ⟨.caret, position⟩ :: (after ++ rest)) =
          ⟨base, before.length⟩ := firstIh _ firstSpelled (fun _ _ => id)
      have lastRead : readSigned finish (after ++ rest) = ⟨exponent, after.length⟩ :=
        lastIh rest lastSpelled ends
      rw [List.append_assoc, List.cons_append, Nonterminal.read, readPower_of_first firstRead,
        readExponent_caret lastRead, List.length_append, List.length_cons, Nat.add_comm 1]
      rfl
  | number value =>
      obtain ⟨⟨_, position⟩, others, rfl, rfl, noOthers⟩ := List.map_eq_cons_iff.mp spelled
      rw [List.map_eq_nil_iff] at noOthers
      subst noOthers
      rw [List.singleton_append, Nonterminal.read, readPrimary]
      rfl
  | @parentheses _ inner inside ih =>
      obtain ⟨front, behind, rfl, frontSpelled, behindSpelled⟩ := List.map_eq_append_iff.mp spelled
      obtain ⟨⟨_, opening⟩, within, rfl, rfl, insideSpelled⟩ := List.map_eq_cons_iff.mp frontSpelled
      obtain ⟨⟨_, closing⟩, others, rfl, rfl, noOthers⟩ := List.map_eq_cons_iff.mp behindSpelled
      rw [List.map_eq_nil_iff] at noOthers
      subst noOthers
      have whole : readSum finish (within ++ ⟨.closing, closing⟩ :: rest) =
          (readTerms finish inner (⟨.closing, closing⟩ :: rest)).behind within.length :=
        ih _ insideSpelled (endsBefore_closing closing rest)
      rw [readTerms_closing] at whole
      rw [List.append_assoc, List.singleton_append, List.cons_append, Nonterminal.read,
        readPrimary_parentheses whole, List.length_append, List.length_cons, List.length_singleton,
        Nat.add_comm 1]
      rfl

namespace Expr

/-- The tokens of a text spell an expression without a fault exactly if it is derived from them. -/
theorem derives_iff_ofTokens {finish : Nat} {tokens : List Token} {expr : Expr} :
    Derives .sum (tokens.map Token.lexeme) expr ↔
      ofTokens finish tokens = expr ∧ expr.Faultless := by
  constructor
  · intro derived
    refine ⟨?_, derived.faultless⟩
    have nonempty : ¬tokens.isEmpty := by
      rw [List.isEmpty_iff, ← List.map_eq_nil_iff]
      exact derived.ne_nil
    have whole : readSum finish (tokens ++ []) = (readTerms finish expr []).behind tokens.length :=
      read_of_derives finish derived [] rfl (fun _ member => nomatch member)
    rw [List.append_nil, readTerms] at whole
    rw [ofTokens, if_neg nonempty]
    simp only [whole, Reading.behind, Nat.add_zero, List.drop_length]
  · rintro ⟨rfl, faultless⟩
    rw [ofTokens] at faultless ⊢
    split at faultless
    · cases faultless
    · next nonempty =>
        rw [if_neg nonempty]
        dsimp only at faultless ⊢
        split at faultless
        · next allTaken =>
            have derived := readSum_spells finish tokens faultless
            rwa [List.take_of_length_le (List.drop_eq_nil_iff.mp allTaken)] at derived
        · cases faultless

end Expr

end LineShell.Arithmetic
