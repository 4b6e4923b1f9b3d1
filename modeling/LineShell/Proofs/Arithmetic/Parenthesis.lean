import LineShell.Proofs.Arithmetic.Meaning

namespace LineShell.Arithmetic

/-- The number of open parentheses behind a lexeme, `level` of them being open before it. -/
def Lexeme.levelAfter? (level : Nat) : Lexeme → Option Nat
  | .opening => some (level + 1)
  | .closing => if level = 0 then none else some (level - 1)
  | _ => some level

/-- The number of open parentheses behind some lexemes, unless one closes more than was opened. -/
def levelAfter? (level : Nat) (lexemes : List Lexeme) : Option Nat :=
  lexemes.foldlM Lexeme.levelAfter? level

def Balanced (lexemes : List Lexeme) : Prop :=
  ∀ level, levelAfter? level lexemes = some level

theorem levelAfter?_cons (level : Nat) (lexeme : Lexeme) (lexemes : List Lexeme) :
    levelAfter? level (lexeme :: lexemes) =
      (lexeme.levelAfter? level).bind (levelAfter? · lexemes) :=
  rfl

theorem levelAfter?_append (level : Nat) (front back : List Lexeme) :
    levelAfter? level (front ++ back) = (levelAfter? level front).bind (levelAfter? · back) :=
  List.foldlM_append

theorem levelAfter?_opening (level : Nat) (lexemes : List Lexeme) :
    levelAfter? level (.opening :: lexemes) = levelAfter? (level + 1) lexemes :=
  rfl

theorem levelAfter?_closing (level : Nat) (lexemes : List Lexeme) :
    levelAfter? (level + 1) (.closing :: lexemes) = levelAfter? level lexemes :=
  rfl

theorem levelAfter?_plain {lexeme : Lexeme} (plain : lexeme ≠ .opening ∧ lexeme ≠ .closing)
    (level : Nat) (lexemes : List Lexeme) :
    levelAfter? level (lexeme :: lexemes) = levelAfter? level lexemes := by
  rw [levelAfter?_cons]
  cases lexeme with
  | opening => exact absurd rfl plain.1
  | closing => exact absurd rfl plain.2
  | _ => rfl

theorem levelAfter?_add {level final : Nat} {lexemes : List Lexeme}
    (found : levelAfter? level lexemes = some final) (more : Nat) :
    levelAfter? (level + more) lexemes = some (final + more) := by
  induction lexemes generalizing level with
  | nil =>
      cases found
      rfl
  | cons lexeme lexemes ih =>
      by_cases opens : lexeme = .opening
      · subst opens
        rw [levelAfter?_opening] at found ⊢
        rw [Nat.add_right_comm]
        exact ih found
      · by_cases closes : lexeme = .closing
        · subst closes
          cases level with
          | zero => cases found
          | succ level =>
              rw [levelAfter?_closing] at found
              rw [Nat.add_right_comm, levelAfter?_closing]
              exact ih found
        · rw [levelAfter?_plain ⟨opens, closes⟩] at found ⊢
          exact ih found

theorem Joins.plain {symbol : Nonterminal} {sign : Lexeme} {operator : Operator}
    (joins : Joins symbol sign operator) : sign ≠ .opening ∧ sign ≠ .closing := by
  cases joins <;> exact ⟨nofun, nofun⟩

theorem Balanced.append {front back : List Lexeme} (first : Balanced front) (last : Balanced back) :
    Balanced (front ++ back) := by
  intro level
  rw [levelAfter?_append, first, Option.bind_some]
  exact last level

theorem Balanced.cons {lexeme : Lexeme} {lexemes : List Lexeme}
    (plain : lexeme ≠ .opening ∧ lexeme ≠ .closing) (others : Balanced lexemes) :
    Balanced (lexeme :: lexemes) := by
  intro level
  rw [levelAfter?_plain plain]
  exact others level

theorem Derives.balanced {symbol : Nonterminal} {lexemes : List Lexeme} {expr : Expr}
    (derived : Derives symbol lexemes expr) : Balanced lexemes := by
  induction derived with
  | ofProduct _ ih => exact ih
  | sum _ joins _ firstIh lastIh => exact firstIh.append (lastIh.cons joins.plain)
  | ofSigned _ ih => exact ih
  | product _ joins _ firstIh lastIh => exact firstIh.append (lastIh.cons joins.plain)
  | negative _ ih => exact ih.cons ⟨nofun, nofun⟩
  | positive _ ih => exact ih.cons ⟨nofun, nofun⟩
  | ofPower _ ih => exact ih
  | ofPrimary _ ih => exact ih
  | power _ _ firstIh lastIh => exact firstIh.append (lastIh.cons ⟨nofun, nofun⟩)
  | number value => exact fun level => rfl
  | parentheses _ ih =>
      intro level
      rw [List.cons_append, levelAfter?_opening, levelAfter?_append, ih, Option.bind_some]
      rfl

theorem Balanced.not_inside {before front back : List Lexeme}
    (whole : Balanced (before ++ .opening :: front)) : ¬Balanced (front ++ back) := by
  intro inner
  have outside := whole 0
  have inside := inner 0
  rw [levelAfter?_append] at outside inside
  obtain ⟨level, -, outside⟩ := Option.bind_eq_some_iff.mp outside
  obtain ⟨deeper, found, -⟩ := Option.bind_eq_some_iff.mp inside
  rw [levelAfter?_opening, ← Nat.zero_add (level + 1), levelAfter?_add found (level + 1)] at outside
  cases outside

theorem Balanced.not_closed {inner rest : List Lexeme} (inside : Balanced inner) :
    ¬Balanced (inner ++ .closing :: rest) := by
  intro whole
  have found := whole 0
  rw [levelAfter?_append, inside, Option.bind_some] at found
  cases found

/-- An expression in parentheses stands wholly on one side of a sign between two operands. -/
theorem Balanced.beside_sign {first last before inner after : List Lexeme} {sign : Lexeme}
    (left : Balanced first) (plain : sign ≠ .opening ∧ sign ≠ .closing) (inside : Balanced inner)
    (split : first ++ sign :: last = before ++ .opening :: (inner ++ .closing :: after)) :
    (∃ more, first = before ++ .opening :: (inner ++ .closing :: more) ∧
      after = more ++ sign :: last) ∨
    ∃ more, before = first ++ sign :: more ∧
      last = more ++ .opening :: (inner ++ .closing :: after) := by
  rcases List.append_eq_append_iff.mp split with ⟨more, rfl, same⟩ | ⟨more, rfl, same⟩
  · cases more with
    | nil =>
        cases same
        exact absurd rfl plain.1
    | cons d more =>
        cases same
        exact Or.inr ⟨more, rfl, rfl⟩
  · cases more with
    | nil =>
        cases same
        exact absurd rfl plain.1
    | cons d more =>
        rw [List.cons_append] at same
        obtain ⟨rfl, others⟩ := List.cons.inj same
        rcases List.append_eq_append_iff.mp others with ⟨behind, rfl, rest⟩ | ⟨behind, rfl, -⟩
        · cases behind with
          | nil =>
              cases rest
              exact absurd rfl plain.2
          | cons d behind =>
              cases rest
              exact Or.inl ⟨behind, rfl, rfl⟩
        · exact absurd inside left.not_inside

/-- What is in parentheses within parentheses is between the outer ones, or the outer ones are its
own. -/
theorem Balanced.within_parentheses {lexemes before inner after : List Lexeme}
    (whole : Balanced lexemes) (inside : Balanced inner)
    (split : .opening :: lexemes ++ [.closing] =
      before ++ .opening :: (inner ++ .closing :: after)) :
    (before = [] ∧ lexemes = inner ∧ after = []) ∨
    ∃ outer rest, before = .opening :: outer ∧ after = rest ++ [.closing] ∧
      lexemes = outer ++ .opening :: (inner ++ .closing :: rest) := by
  rcases List.eq_nil_or_concat after with rfl | ⟨rest, last, rfl⟩
  · have shape : .opening :: lexemes ++ [.closing] =
        (before ++ .opening :: inner) ++ [Lexeme.closing] := by
      rw [split, List.append_assoc]
      rfl
    have same := List.append_cancel_right shape
    cases before with
    | nil =>
        cases same
        exact Or.inl ⟨rfl, rfl, rfl⟩
    | cons d before =>
        cases same
        have same : Balanced (inner ++ []) := by rwa [List.append_nil]
        exact absurd same whole.not_inside
  · have shape : .opening :: lexemes ++ [.closing] =
        (before ++ .opening :: (inner ++ .closing :: rest)) ++ [last] := by
      rw [split]
      simp
    obtain ⟨same, closes⟩ := List.append_inj' shape rfl
    cases closes
    cases before with
    | nil =>
        cases same
        exact absurd whole inside.not_closed
    | cons d before =>
        cases same
        exact Or.inr ⟨before, rest, rfl, by simp, rfl⟩

theorem Expr.denotes_number_iff {number value : Rat} :
    (Expr.number number).Denotes value ↔ value = number := by
  constructor
  · intro denotes
    cases denotes
    rfl
  · rintro rfl
    exact .number value

theorem Expr.denotes_negated_iff {operand : Expr} {value : Rat} :
    (Expr.negated operand).Denotes value ↔ ∃ inner, operand.Denotes inner ∧ value = -inner := by
  constructor
  · intro denotes
    cases denotes with
    | negated inner => exact ⟨_, inner, rfl⟩
  · rintro ⟨inner, denotes, rfl⟩
    exact .negated denotes

theorem Expr.denotes_binary_iff {operator : Operator} {left right : Expr} {value : Rat} :
    (Expr.binary operator left right).Denotes value ↔
      ∃ first second, left.Denotes first ∧ right.Denotes second ∧
        operator.Yields first second value := by
  constructor
  · intro denotes
    cases denotes with
    | binary leftDenotes rightDenotes yields => exact ⟨_, _, leftDenotes, rightDenotes, yields⟩
  · rintro ⟨first, second, leftDenotes, rightDenotes, yields⟩
    exact .binary leftDenotes rightDenotes yields

theorem Expr.Denotes.unique {expr : Expr} {first second : Rat} (one : expr.Denotes first)
    (other : expr.Denotes second) : first = second := by
  rw [← Expr.value_eq_ok_iff] at one other
  exact Except.ok.inj (one.symm.trans other)

theorem Derives.unique {lexemes : List Lexeme} {first second : Expr}
    (one : Derives .sum lexemes first) (other : Derives .sum lexemes second) : first = second := by
  have spelled : (lexemes.map fun lexeme => Token.mk lexeme 0).map Token.lexeme = lexemes := by
    rw [List.map_map]
    exact List.map_id lexemes
  rw [← spelled, @Expr.derives_iff_ofTokens 0] at one other
  exact one.1.symm.trans other.1

def Expr.SameMeaning (one other : Expr) : Prop :=
  ∀ value, one.Denotes value ↔ other.Denotes value

theorem Expr.SameMeaning.refl (expr : Expr) : expr.SameMeaning expr :=
  fun _ => Iff.rfl

theorem Expr.SameMeaning.negated {operand other : Expr} (same : operand.SameMeaning other) :
    (Expr.negated operand).SameMeaning (.negated other) := by
  intro value
  simp only [denotes_negated_iff, same _]

theorem Expr.SameMeaning.binary {left right otherLeft otherRight : Expr} (operator : Operator)
    (leftSame : left.SameMeaning otherLeft) (rightSame : right.SameMeaning otherRight) :
    (Expr.binary operator left right).SameMeaning (.binary operator otherLeft otherRight) := by
  intro value
  simp only [denotes_binary_iff, leftSame _, rightSame _]

theorem Expr.Denotes.sameMeaning_number {expr : Expr} {number : Rat}
    (denotes : expr.Denotes number) : expr.SameMeaning (.number number) := by
  intro value
  rw [denotes_number_iff]
  constructor
  · exact fun other => other.unique denotes
  · rintro rfl
    exact denotes

/-- Holds if a number may stand in place of some lexemes in parentheses, wherever these stand among
the lexemes of an expression. -/
def Replaceable (inner : List Lexeme) (number : Rat) (symbol : Nonterminal)
    (lexemes : List Lexeme) (whole : Expr) : Prop :=
  ∀ before after, lexemes = before ++ .opening :: (inner ++ .closing :: after) →
    ∃ other, Derives symbol (before ++ .number number :: after) other ∧ whole.SameMeaning other

theorem Replaceable.only {inner lexemes : List Lexeme} {number : Rat}
    {symbol outerSymbol : Nonterminal} {expr : Expr}
    (rule : ∀ {lexemes expr}, Derives symbol lexemes expr → Derives outerSymbol lexemes expr)
    (replaceable : Replaceable inner number symbol lexemes expr) :
    Replaceable inner number outerSymbol lexemes expr := by
  intro before after split
  obtain ⟨other, replaced, same⟩ := replaceable before after split
  exact ⟨other, rule replaced, same⟩

theorem Replaceable.cons {inner lexemes : List Lexeme} {number : Rat}
    {symbol outerSymbol : Nonterminal} {sign : Lexeme} {expr : Expr} (build : Expr → Expr)
    (rule : ∀ {lexemes expr}, Derives symbol lexemes expr →
      Derives outerSymbol (sign :: lexemes) (build expr))
    (plain : sign ≠ .opening ∧ sign ≠ .closing)
    (builds : ∀ {other}, expr.SameMeaning other → (build expr).SameMeaning (build other))
    (replaceable : Replaceable inner number symbol lexemes expr) :
    Replaceable inner number outerSymbol (sign :: lexemes) (build expr) := by
  intro before after split
  cases before with
  | nil =>
      cases split
      exact absurd rfl plain.1
  | cons d before =>
      cases split
      obtain ⟨other, replaced, same⟩ := replaceable before after rfl
      exact ⟨build other, rule replaced, builds same⟩

theorem Replaceable.binary {inner first last : List Lexeme} {number : Rat}
    {symbol firstSymbol lastSymbol : Nonterminal} {sign : Lexeme} {operator : Operator}
    {left right : Expr}
    (rule : ∀ {first last left right}, Derives firstSymbol first left →
      Derives lastSymbol last right →
        Derives symbol (first ++ sign :: last) (.binary operator left right))
    (plain : sign ≠ .opening ∧ sign ≠ .closing) (inside : Balanced inner)
    (leftDerived : Derives firstSymbol first left) (rightDerived : Derives lastSymbol last right)
    (leftReplaceable : Replaceable inner number firstSymbol first left)
    (rightReplaceable : Replaceable inner number lastSymbol last right) :
    Replaceable inner number symbol (first ++ sign :: last) (.binary operator left right) := by
  intro before after split
  rcases leftDerived.balanced.beside_sign plain inside split with
    ⟨more, shape, rfl⟩ | ⟨more, rfl, shape⟩
  · obtain ⟨other, replaced, same⟩ := leftReplaceable before more shape
    refine ⟨.binary operator other right, ?_, same.binary operator (.refl right)⟩
    rw [← List.cons_append, ← List.append_assoc]
    exact rule replaced rightDerived
  · obtain ⟨other, replaced, same⟩ := rightReplaceable more after shape
    refine ⟨.binary operator left other, ?_, .binary operator (.refl left) same⟩
    rw [List.append_assoc, List.cons_append]
    exact rule leftDerived replaced

theorem Derives.replaceable {inner : List Lexeme} {part : Expr} {number : Rat}
    (inside : Derives .sum inner part) (denotes : part.Denotes number) {symbol : Nonterminal}
    {lexemes : List Lexeme} {whole : Expr} (derived : Derives symbol lexemes whole) :
    Replaceable inner number symbol lexemes whole := by
  induction derived with
  | ofProduct _ ih => exact ih.only .ofProduct
  | sum first joins last firstIh lastIh =>
      exact .binary (fun first last => .sum first joins last) joins.plain inside.balanced first
        last firstIh lastIh
  | ofSigned _ ih => exact ih.only .ofSigned
  | product first joins last firstIh lastIh =>
      exact .binary (fun first last => .product first joins last) joins.plain inside.balanced
        first last firstIh lastIh
  | negative _ ih => exact ih.cons .negated .negative ⟨nofun, nofun⟩ Expr.SameMeaning.negated
  | positive _ ih => exact ih.cons id .positive ⟨nofun, nofun⟩ id
  | ofPower _ ih => exact ih.only .ofPower
  | ofPrimary _ ih => exact ih.only .ofPrimary
  | power first last firstIh lastIh =>
      exact .binary .power ⟨nofun, nofun⟩ inside.balanced first last firstIh lastIh
  | number value =>
      intro before after split
      cases before with
      | nil => cases split
      | cons d before =>
          obtain ⟨-, absent⟩ := List.cons.inj split
          exact absurd absent (by simp)
  | parentheses derived ih =>
      intro before after split
      rcases derived.balanced.within_parentheses inside.balanced split with
        ⟨rfl, rfl, rfl⟩ | ⟨outer, rest, rfl, rfl, shape⟩
      · rw [derived.unique inside]
        exact ⟨.number number, .number number, denotes.sameMeaning_number⟩
      · obtain ⟨other, replaced, same⟩ := ih outer rest shape
        refine ⟨other, ?_, same⟩
        rw [← List.cons_append, ← List.append_assoc]
        exact .parentheses replaced

end LineShell.Arithmetic
