import Mathlib.Data.List.Basic
import LineShell.Proofs.Arithmetic.NormalForm

/-!
Expressions and concatenation. Behind a text whose parentheses balance nothing is open, so no
expression that begins in it ends beyond it. The sweep comes from the other side: what it has made
of the end of the text still closes what the front part opens, since it takes away parentheses only
in pairs.
-/

namespace LineShell.Arithmetic

open Escape

/-- Holds of a text that closes `level` more parentheses than it opens, and at no place in it more
than these. -/
structure Closes (level : Nat) (text : Text) : Prop where
  within : ∀ front, front <+: text → front.count (.char ')') ≤ level + front.count (.char '(')
  whole : text.count (.char ')') = level + text.count (.char '(')

instance (level : Nat) (text : Text) : Decidable (Closes level text) :=
  decidable_of_iff
    ((∀ length ≤ text.length,
      (text.take length).count (.char ')') ≤ level + (text.take length).count (.char '(')) ∧
      text.count (.char ')') = level + text.count (.char '('))
    ⟨fun ⟨within, whole⟩ => ⟨fun front lead => by
        rw [List.prefix_iff_eq_take.mp lead]
        exact within front.length lead.length_le, whole⟩,
      fun ⟨within, whole⟩ => ⟨fun length _ => within _ (List.take_prefix length text), whole⟩⟩

theorem closes_nil_iff {level : Nat} : Closes level [] ↔ level = 0 := by
  constructor
  · intro closes
    have whole := closes.whole
    simpa using whole.symm
  · rintro rfl
    exact ⟨fun front lead => by simp [List.prefix_nil.mp lead], rfl⟩

theorem closes_cons_iff {level inside : Nat} {c : CodePoint} {rest : Text}
    (step : level + [c].count (.char '(') = inside + [c].count (.char ')')) :
    Closes level (c :: rest) ↔ Closes inside rest := by
  have counted (mark : CodePoint) (front : Text) :
      (c :: front).count mark = [c].count mark + front.count mark := by
    rw [← List.count_append, List.singleton_append]
  constructor
  · rintro ⟨within, whole⟩
    constructor
    · intro front lead
      have here := within (c :: front) ((List.prefix_cons_inj c).mpr lead)
      rw [counted ')', counted '('] at here
      omega
    · rw [counted ')', counted '('] at whole
      omega
  · rintro ⟨within, whole⟩
    constructor
    · intro front lead
      rcases List.prefix_cons_iff.mp lead with rfl | ⟨others, rfl, behind⟩
      · simp
      · have here := within others behind
        rw [counted ')', counted '(']
        omega
    · rw [counted ')', counted '(']
      omega

theorem closes_opening_iff {level : Nat} {rest : Text} :
    Closes level (.char '(' :: rest) ↔ Closes (level + 1) rest :=
  closes_cons_iff rfl

theorem closes_closing_iff {level : Nat} {rest : Text} :
    Closes (level + 1) (.char ')' :: rest) ↔ Closes level rest :=
  closes_cons_iff rfl

theorem closes_plain_iff {level : Nat} {c : CodePoint} {rest : Text} (plain : c ≠ '(' ∧ c ≠ ')') :
    Closes level (c :: rest) ↔ Closes level rest := by
  apply closes_cons_iff
  rw [List.count_singleton, List.count_singleton]
  simp [plain]

theorem closes_append_iff {level : Nat} {front : Text} (plain : ∀ c ∈ front, c ≠ '(' ∧ c ≠ ')')
    (rest : Text) : Closes level (front ++ rest) ↔ Closes level rest := by
  induction front with
  | nil => rfl
  | cons c front ih =>
      obtain ⟨here, others⟩ := List.forall_mem_cons.mp plain
      rw [List.cons_append, closes_plain_iff here, ih others]

theorem Closes.exists_inside {level : Nat} {c : CodePoint} {rest : Text}
    (closes : Closes level (c :: rest)) :
    ∃ inside, level + [c].count (.char '(') = inside + [c].count (.char ')') := by
  have here := closes.within [c] (List.prefix_append [c] rest)
  exact ⟨level + [c].count (.char '(') - [c].count (.char ')'), by omega⟩

/-- The scan for the end of an expression counts the parentheses that the text still has to close,
without the two in front of the expression and the `outer` ones before these. -/
theorem Closes.inside {depth outer : Nat} {c : CodePoint} {rest : Text}
    (closes : Closes (depth + outer + 2) (c :: rest)) (goesOn : ¬(c = ')' && depth = 0) = true) :
    Closes ((if c = '(' then depth + 1 else if c = ')' then depth - 1 else depth) + outer + 2)
      rest := by
  apply (closes_cons_iff _).mp closes
  by_cases opening : c = '('
  · subst opening
    change depth + outer + 2 + 1 = depth + 1 + outer + 2 + 0
    omega
  · by_cases closing : c = ')'
    · subst closing
      have inside : depth ≠ 0 := by simpa using goesOn
      change depth + outer + 2 + 0 = depth - 1 + outer + 2 + 1
      omega
    · simp [opening, closing]

/-- Where two parentheses are open around an expression and the text closes them, nothing behind the
text tells where the expression ends. -/
theorem takeBalanced?_append_of_closes {depth outer : Nat} {text : Text}
    (closes : Closes (depth + outer + 2) text) (back : Text) :
    takeBalanced? depth (text ++ back) =
      (takeBalanced? depth text).map fun (expression, after) => (expression, after ++ back) := by
  induction text generalizing depth with
  | nil => cases closes_nil_iff.mp closes
  | cons c rest ih =>
      rw [List.cons_append]
      unfold takeBalanced?
      by_cases ends : (c = ')' && depth = 0) = true
      · rw [if_pos ends, if_pos ends]
        obtain ⟨rfl, rfl⟩ : c = ')' ∧ depth = 0 := by simpa using ends
        cases rest with
        | nil =>
            rw [Nat.zero_add] at closes
            cases closes_nil_iff.mp (closes_closing_iff.mp closes)
        | cons d rest =>
            rw [List.cons_append]
            by_cases closing : d = ')'
            · subst closing
              rfl
            · simp [closing]
      · rw [if_neg ends, if_neg ends]
        dsimp only
        rw [ih (closes.inside ends), Option.map_map, Option.map_map]
        rfl

theorem Closes.of_takeBalanced? {depth outer : Nat} {text expression after : Text}
    (closes : Closes (depth + outer + 2) text)
    (found : takeBalanced? depth text = some (expression, after)) : Closes outer after := by
  induction text generalizing depth expression with
  | nil => cases found
  | cons c rest ih =>
      unfold takeBalanced? at found
      split at found
      · next ends =>
          obtain ⟨rfl, rfl⟩ : c = ')' ∧ depth = 0 := by simpa using ends
          split at found
          · next behind =>
              cases found
              rw [Nat.zero_add] at closes
              exact closes_closing_iff.mp (closes_closing_iff.mp closes)
          · cases found
      · next goesOn =>
          obtain ⟨⟨others, behind⟩, taken, same⟩ := Option.map_eq_some_iff.mp found
          cases same
          exact ih (closes.inside goesOn) taken

theorem Closes.reduceAfter {level : Nat} {text : Text} (closes : Closes level text) (run : Nat) :
    Closes level (reduceAfter run text) := by
  have noParenthesis (n : Nat) : ∀ c ∈ backslashes n, c ≠ '(' ∧ c ≠ ')' := by
    intro c member
    rw [List.eq_of_mem_replicate member]
    decide
  induction run, text using scan_induction generalizing level with
  | nil run =>
      rw [Arithmetic.reduceAfter, ← List.append_nil (backslashes run)]
      exact (closes_append_iff (noParenthesis run) []).mpr closes
  | backslash run rest ih =>
      rw [reduceAfter_backslash]
      exact ih ((closes_plain_iff (by decide)).mp closes)
  | plain run c rest plain ih =>
      rcases reduceAfter_cases plain run rest with ⟨rfl, -, value, after, found, reduced⟩ |
        ⟨-, kept⟩
      · obtain ⟨inside, expression, shape, taken, evaluated⟩ :=
          exists_takeBalanced?_of_valueAt? found
        have behind : Closes level (Arithmetic.reduceAfter 0 rest) :=
          ih ((closes_plain_iff (by decide)).mp closes)
        rw [shape, closes_opening_iff, closes_opening_iff, ← Nat.zero_add level] at behind
        have noneInValue : ∀ c ∈ value, c ≠ '(' ∧ c ≠ ')' := by
          intro c member
          have numeral := (shape_of_numeral? evaluated).2 c member
          exact ⟨ne_of_isNumeralCharacter numeral (by decide),
            ne_of_isNumeralCharacter numeral (by decide)⟩
        rw [reduced, closes_append_iff (noParenthesis _), closes_append_iff noneInValue]
        exact behind.of_takeBalanced? taken
      · obtain ⟨inside, step⟩ := closes.exists_inside
        rw [kept, closes_append_iff (noParenthesis run), closes_cons_iff step]
        exact ih ((closes_cons_iff step).mp closes)

theorem reduceAfter_ne_nil {text : Text} (occupied : text ≠ []) (run : Nat) :
    reduceAfter run text ≠ [] := by
  induction run, text using scan_induction with
  | nil run => exact absurd rfl occupied
  | backslash run rest ih =>
      rw [reduceAfter_backslash]
      cases rest with
      | nil => simp [reduceAfter, backslashes_succ]
      | cons c rest => exact ih (List.cons_ne_nil c rest)
  | plain run c rest plain ih =>
      rcases reduceAfter_cases plain run rest with ⟨-, -, value, after, found, reduced⟩ | ⟨-, kept⟩
      · obtain ⟨_, _, -, -, evaluated⟩ := exists_takeBalanced?_of_valueAt? found
        simp [reduced, (shape_of_numeral? evaluated).1]
      · simp [kept]

theorem valueAt?_of_not_begins {text : Text}
    (apart : ∀ inside, text ≠ .char '(' :: .char '(' :: inside) :
    valueAt? text = none := by
  unfold valueAt?
  split
  · next inside => exact absurd rfl (apart inside)
  · rfl

theorem valueAt?_append_of_closes {level : Nat} {text : Text} (closes : Closes level text)
    (occupied : text ≠ []) (back : Text) :
    valueAt? (text ++ back) =
      (valueAt? text).map fun (value, after) => (value, after ++ back) := by
  by_cases begins : ∃ inside, text = .char '(' :: .char '(' :: inside
  · obtain ⟨inside, rfl⟩ := begins
    rw [closes_opening_iff, closes_opening_iff, ← Nat.zero_add level] at closes
    have taken := takeBalanced?_append_of_closes closes back
    simp only [List.cons_append, valueAt?, taken]
    cases takeBalanced? 0 inside with
    | none => rfl
    | some found => simp [Option.map_map, Function.comp_def]
  · have noValue (after : Text) : valueAt? (text ++ after) = none := by
      apply valueAt?_of_not_begins
      intro inside shape
      cases text with
      | nil => exact absurd rfl occupied
      | cons c text =>
          cases text with
          | nil =>
              cases shape
              cases closes_nil_iff.mp (closes_opening_iff.mp closes)
          | cons d text =>
              cases shape
              exact absurd ⟨text, rfl⟩ begins
    rw [noValue back, ← List.append_nil text, noValue []]
    rfl

/-- Behind a text that holds all expressions which begin in it, and whose last run of backslashes
stays in front of what follows, the sweep does what it does without the text. -/
theorem reduceAfter_append_of_seam {run : Nat} {front back : Text}
    (seam : ∀ rest, .char '$' :: rest <:+ front →
      valueAt? (reduceAfter 0 rest ++ reduceAfter 0 back) =
      (valueAt? (reduceAfter 0 rest)).map fun (value, after) =>
        (value, after ++ reduceAfter 0 back))
    (edge : ∀ n, backslashes n <:+ backslashes run ++ front →
      reduceAfter n back = backslashes n ++ reduceAfter 0 back) :
    reduceAfter run (front ++ back) = reduceAfter run front ++ reduceAfter 0 back := by
  induction run, front using scan_induction with
  | nil run =>
      rw [List.append_nil] at edge
      exact edge run (List.suffix_refl _)
  | backslash run rest ih =>
      rw [List.cons_append, reduceAfter_backslash, reduceAfter_backslash]
      apply ih
      · exact fun inside opened => seam inside (opened.trans (List.suffix_cons _ rest))
      · rwa [backslashes_succ_append]
  | plain run c rest plain ih =>
      have behind : rest <:+ c :: rest := List.suffix_cons c rest
      have tail := ih (fun inside opened => seam inside (opened.trans behind))
        fun n ends => edge n (ends.trans (behind.trans (List.suffix_append _ _)))
      rw [List.cons_append]
      rcases reduceAfter_cases plain run rest with
        ⟨rfl, unescaped, value, after, found, reduced⟩ | ⟨stays, kept⟩
      · have whole : valueAt? (reduceAfter 0 (rest ++ back)) =
            some (value, after ++ reduceAfter 0 back) := by
          rw [tail, seam rest (List.suffix_refl _), found]
          rfl
        rw [reduceAfter_dollar unescaped whole, reduced]
        simp
      · rw [kept, reduceAfter_cons plain, tail, List.append_assoc]
        · rfl
        · rintro rfl
          rw [tail, seam rest (List.suffix_refl _)]
          exact (stays rfl).imp_right fun absent => by rw [absent]; rfl

theorem Closes.exists_of_suffix {level : Nat} {text rest : Text} (closes : Closes level text)
    (behind : rest <:+ text) : ∃ inside, Closes inside rest := by
  induction text generalizing level with
  | nil => exact ⟨level, by rwa [List.suffix_nil.mp behind]⟩
  | cons c text ih =>
      rcases List.suffix_cons_iff.mp behind with rfl | later
      · exact ⟨level, closes⟩
      · obtain ⟨inside, step⟩ := closes.exists_inside
        exact ih ((closes_cons_iff step).mp closes) later

theorem reduceAfter_append {run level : Nat} {front : Text} (closes : Closes level front)
    (noRun : runAtEnd (backslashes run ++ front) = 0) (noDollar : front.getLast? ≠ some (.char '$'))
    (back : Text) :
    reduceAfter run (front ++ back) = reduceAfter run front ++ reduceAfter 0 back := by
  apply reduceAfter_append_of_seam
  · intro rest opened
    obtain ⟨inside, behind⟩ :=
      closes.exists_of_suffix ((List.suffix_cons (.char '$') rest).trans opened)
    apply valueAt?_append_of_closes (behind.reduceAfter 0)
    apply reduceAfter_ne_nil
    rintro rfl
    obtain ⟨start, rfl⟩ := opened
    exact noDollar List.getLast?_concat
  · intro n ⟨start, ends⟩
    rw [← ends, runAtEnd_append_backslashes] at noRun
    rw [Nat.eq_zero_of_add_eq_zero_left noRun]
    rfl

/-- What is reduced in a text whose parentheses balance, and in a text behind it, is reduced in each
of them as if it stood alone, unless a dollar or a backslash at the seam belongs to both. -/
theorem reduce_append {first : Text} (balanced : Closes 0 first)
    (noDollar : first.getLast? ≠ some (.char '$'))
    (noBackslash : first.getLast? ≠ some (.char '\\'))
    (second : Text) : reduce (first ++ second) = reduce first ++ reduce second := by
  apply reduceAfter_append balanced _ noDollar
  exact runAtEnd_eq_zero noBackslash

/-- The first text holds an expression without a value, an escaped one and a nested one; the second
closes a parenthesis that nothing opened and opens an expression that nothing closes. -/
theorem reduce_append_at_mixed_expressions :
    let first : Text := "$((1/0))\\$((2))($((1+$((1)))))".text
    let second : Text := ")$((2*3))$((4)".text
    Closes 0 first ∧ first.getLast? ≠ some (.char '$') ∧ first.getLast? ≠ some (.char '\\') ∧
      reduce first = "$((1/0))\\$((2))(2)".text ∧ reduce second = ")6$((4)".text ∧
      reduce (first ++ second) = reduce first ++ reduce second := by
  intro first second
  have balanced : Closes 0 first := by decide +kernel
  have noDollar : first.getLast? ≠ some (.char '$') := by decide +kernel
  have noBackslash : first.getLast? ≠ some (.char '\\') := by decide +kernel
  exact ⟨balanced, noDollar, noBackslash, by decide +kernel, by decide +kernel,
    reduce_append balanced noDollar noBackslash second⟩

end LineShell.Arithmetic
