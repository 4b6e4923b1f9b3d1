import LineShell.Proofs.Arithmetic.Decimal
import LineShell.Proofs.BackslashRun

/-!
One sweep from right to left reduces a text to the end: no expression that it leaves unescaped has
a value. What is reduced further left changes nothing about the text behind it, since a numeral
begins nothing and escapes nothing.
-/

namespace LineShell.Arithmetic

open Escape

/-- Holds of a text in which no unescaped dollar stands before an expression with a value. -/
def Normal (text : Text) : Prop :=
  ∀ before rest, text = before ++ .char '$' :: rest → escapes (runAtEnd before) = false →
    valueAt? rest = none

theorem normal_of_notMem {text : Text} (absent : .char '$' ∉ text) : Normal text := by
  intro before rest split
  apply absurd _ absent
  rw [split]
  exact List.mem_append_right before List.mem_cons_self

theorem normal_of_not_infix {text : Text} (absent : ¬"$((".text <:+: text) : Normal text := by
  intro before rest split _
  unfold valueAt?
  split
  · next inside =>
      apply absurd _ absent
      exact ⟨before, inside, by rw [split, List.append_assoc]; rfl⟩
  · rfl

/-- Nothing in front of the last character that is no backslash tells how the rest is read. -/
theorem Normal.behind {front text : Text} {c : CodePoint} (plain : c ≠ '\\')
    (normal : Normal (front ++ c :: text)) : Normal text := by
  intro before rest split unescaped
  apply normal (front ++ c :: before) rest
  · rw [split, List.append_assoc]
    rfl
  · rw [runAtEnd_append_cons plain]
    exact unescaped

theorem Normal.append_cons {front text : Text} {c : CodePoint} (plain : c ≠ '\\')
    (absent : .char '$' ∉ front)
    (here : c = '$' → escapes (runAtEnd front) = false → valueAt? text = none)
    (normal : Normal text) : Normal (front ++ c :: text) := by
  intro before rest split unescaped
  rcases List.append_eq_append_iff.mp split with ⟨more, rfl, same⟩ | ⟨more, rfl, same⟩
  · cases more with
    | nil =>
        rw [List.append_nil] at unescaped
        cases same
        exact here rfl unescaped
    | cons d more =>
        rw [List.cons_append] at same
        cases same
        rw [runAtEnd_append_cons plain] at unescaped
        exact normal more rest rfl unescaped
  · cases more with
    | nil =>
        rw [List.append_nil] at here
        cases same
        exact here rfl unescaped
    | cons d more =>
        rw [List.cons_append] at same
        cases same
        exact absurd (List.mem_append_right before List.mem_cons_self) absent

theorem takeBalanced?_eq_some {depth : Nat} {text expression after : Text}
    (found : takeBalanced? depth text = some (expression, after)) :
    text = expression ++ .char ')' :: .char ')' :: after := by
  fun_induction takeBalanced? depth text generalizing expression with
  | case1 depth => cases found
  | case2 depth c closes after' =>
      rw [Bool.and_eq_true, decide_eq_true_eq] at closes
      cases found
      rw [closes.1]
      rfl
  | case3 depth c rest closes single => cases found
  | case4 depth c rest goesOn inside =>
      rename_i ih
      obtain ⟨⟨others, behind⟩, taken, same⟩ := Option.map_eq_some_iff.mp found
      cases same
      rw [ih taken]
      rfl

theorem exists_takeBalanced?_of_valueAt? {text value after : Text}
    (found : valueAt? text = some (value, after)) :
    ∃ rest expression, text = .char '(' :: .char '(' :: rest ∧
      takeBalanced? 0 rest = some (expression, after) ∧ numeral? expression = some value := by
  unfold valueAt? at found
  split at found
  · next rest =>
      split at found
      · next expression after' taken =>
          obtain ⟨numeral, evaluated, same⟩ := Option.map_eq_some_iff.mp found
          cases same
          exact ⟨rest, expression, rfl, taken, evaluated⟩
      · cases found
  · cases found

theorem valueAt?_eq_some {text value after : Text} (found : valueAt? text = some (value, after)) :
    ∃ expression, text = .char '(' :: .char '(' :: (expression ++ .char ')' :: .char ')' :: after) ∧
      numeral? expression = some value := by
  obtain ⟨rest, expression, shape, taken, evaluated⟩ := exists_takeBalanced?_of_valueAt? found
  exact ⟨expression, by rw [shape, takeBalanced?_eq_some taken], evaluated⟩

theorem shape_of_numeral? {expression value : Text} (evaluated : numeral? expression = some value) :
    value ≠ [] ∧ ∀ c ∈ value, c.isDigit = true ∨ c = '-' ∨ c = '.' := by
  unfold numeral? at evaluated
  split at evaluated
  · exact Decimal.shape_of_ofRat? evaluated
  · cases evaluated

theorem ne_of_isNumeralCharacter {c d : CodePoint} (shape : c.isDigit = true ∨ c = '-' ∨ c = '.')
    (other : d.isDigit = false ∧ d ≠ '-' ∧ d ≠ '.') : c ≠ d := by
  intro same
  subst same
  rcases shape with digit | sign | point
  · rw [other.1] at digit
    cases digit
  · exact other.2.1 sign
  · exact other.2.2 point

theorem Normal.append_numeral {value after : Text} (occupied : value ≠ [])
    (shape : ∀ c ∈ value, c.isDigit = true ∨ c = '-' ∨ c = '.') (run : Nat)
    (normal : Normal after) : Normal (backslashes run ++ value ++ after) := by
  obtain ⟨front, last, rfl⟩ : ∃ front last, value = front ++ [last] :=
    ⟨_, _, (List.dropLast_concat_getLast occupied).symm⟩
  have lastShape := shape last (by simp)
  have noDollar : ∀ c ∈ front, c ≠ '$' := fun c member =>
    ne_of_isNumeralCharacter (shape c (List.mem_append_left _ member)) (by decide)
  have absent : .char '$' ∉ backslashes run ++ front := by
    rw [List.mem_append, not_or]
    exact ⟨notMem_backslashes (by decide) run, fun member => noDollar _ member rfl⟩
  have whole : Normal (backslashes run ++ front ++ last :: after) := by
    apply Normal.append_cons (ne_of_isNumeralCharacter lastShape (by decide)) absent _ normal
    intro dollar
    exact absurd dollar (ne_of_isNumeralCharacter lastShape (by decide))
  simpa using whole

theorem normal_reduceAfter (run : Nat) (text : Text) : Normal (reduceAfter run text) := by
  induction run, text using scan_induction with
  | nil run => exact normal_of_notMem (notMem_backslashes (by decide) run)
  | backslash run rest ih =>
      rw [reduceAfter_backslash]
      exact ih
  | plain run c rest plain ih =>
      rcases reduceAfter_cases plain run rest with
        ⟨rfl, -, value, after, found, reduced⟩ | ⟨stays, kept⟩
      · obtain ⟨expression, shape, evaluated⟩ := valueAt?_eq_some found
        obtain ⟨occupied, characters⟩ := shape_of_numeral? evaluated
        have behind : Normal after := by
          have whole : Normal
              (.char '(' :: .char '(' :: (expression ++ [.char ')']) ++ .char ')' :: after) := by
            rw [shape] at ih
            simpa using ih
          exact whole.behind (by decide)
        rw [reduced, ← List.append_assoc]
        exact behind.append_numeral occupied characters (run / 2)
      · rw [kept]
        apply Normal.append_cons plain (notMem_backslashes (by decide) run) _ ih
        intro dollar unescaped
        rw [runAtEnd_backslashes] at unescaped
        apply (stays dollar).resolve_left
        rw [unescaped]
        decide

theorem reduceAfter_of_normal {run : Nat} {text : Text}
    (normal : Normal (backslashes run ++ text)) :
    reduceAfter run text = backslashes run ++ text := by
  induction run, text using scan_induction with
  | nil run => rw [reduceAfter, List.append_nil]
  | backslash run rest ih =>
      rw [← backslashes_succ_append] at normal ⊢
      rw [reduceAfter_backslash]
      exact ih normal
  | plain run c rest plain ih =>
      have unchanged : reduceAfter 0 rest = rest := ih (normal.behind plain)
      rw [reduceAfter_cons plain, unchanged]
      intro dollar
      rw [unchanged]
      cases escaped : escapes run with
      | true => exact Or.inl rfl
      | false =>
          right
          apply normal (backslashes run) rest
          · rw [dollar]
          · rw [runAtEnd_backslashes]
            exact escaped

theorem reduce_of_normal {text : Text} (normal : Normal text) : reduce text = text :=
  reduceAfter_of_normal normal

/-- In a reduced text an unescaped expression has no end, or no value; so a second sweep finds
nothing to do. -/
theorem reduce_is_final (text : Text) :
    (∀ before rest, reduce text = before ++ .char '$' :: .char '(' :: .char '(' :: rest →
      escapes (runAtEnd before) = false →
        takeBalanced? 0 rest = none ∨
          ∃ expression after, takeBalanced? 0 rest = some (expression, after) ∧
            numeral? expression = none) ∧
      reduce (reduce text) = reduce text := by
  have normal : Normal (reduce text) := normal_reduceAfter 0 text
  constructor
  · intro before rest split unescaped
    have valueless : valueAt? (.char '(' :: .char '(' :: rest) = none :=
      normal before _ split unescaped
    rw [valueAt?] at valueless
    cases taken : takeBalanced? 0 rest with
    | none => exact Or.inl rfl
    | some found =>
        obtain ⟨expression, after⟩ := found
        rw [taken] at valueless
        exact Or.inr ⟨expression, after, rfl, Option.map_eq_none_iff.mp valueless⟩
  · exact reduce_of_normal normal

example : reduce "$((1/$((2-2))))".text = "$((1/0))".text := by decide +kernel

end LineShell.Arithmetic
