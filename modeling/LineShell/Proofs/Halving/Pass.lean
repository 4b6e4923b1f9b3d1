import Mathlib.Tactic.Ring
import LineShell.Proofs.BackslashRun

/-!
What becomes of the backslashes in front of a line. A pass halves an even run in front of a trigger
that it expands and leaves every other run; the removal of escapes halves the run in front of every
trigger that is left. So a run is halved exactly once if, from the expansion of its trigger on, no
text puts another trigger behind it.
-/

namespace LineShell

open Escape

def Escape.TriggerInFront (text : Text) : Prop :=
  startsTrigger (text.dropWhile (· = .char '\\')) = true

instance : DecidablePred TriggerInFront :=
  fun text => inferInstanceAs (Decidable (startsTrigger (text.dropWhile (· = .char '\\')) = true))

/-- One pass over a line, and the triggers at the front of a text that it expands. -/
structure Pass where
  run : Text → Text
  expands : Text → Bool

namespace Pass

/-- Holds of a pass that expands nothing but triggers, leaves the run in front of every character
that it does not expand, and halves an even run in front of a trigger that it expands. -/
structure Lawful (pass : Pass) : Prop where
  trigger : ∀ {text : Text}, pass.expands text = true → startsTrigger text = true
  ends : ∀ n : Nat, pass.run (backslashes n) = backslashes n
  keeps : ∀ (n : Nat) {c : CodePoint} {rest : Text}, c ≠ '\\' →
    (pass.expands (c :: rest) = true → escapes n = true) →
    pass.run (backslashes n ++ c :: rest) = backslashes n ++ c :: pass.run rest
  halves : ∀ (n : Nat) {text : Text}, pass.expands text = true →
    pass.run (backslashes (2 * n) ++ text) = backslashes n ++ pass.run text
  mark : ∀ {rest : Text}, pass.expands (.char '!' :: .char '!' :: rest) = false →
    pass.expands (.char '!' :: rest) = false

def stages : List Pass → Text → List Text
  | [], text => [text]
  | pass :: rest, text => text :: stages rest (pass.run text)

/-- The texts that a line with a trigger at its front becomes from the expansion of that trigger on.
-/
def exposed : List Pass → Text → List Text
  | [], _ => []
  | pass :: rest, text =>
      if pass.expands text then stages rest (pass.run text) else exposed rest (pass.run text)

def finish : List Pass → Text → Text
  | [], text => strip text
  | pass :: rest, text => finish rest (pass.run text)

end Pass

namespace Escape

theorem escapes_two_mul (n : Nat) : escapes (2 * n) = false := by
  simp [escapes]

theorem triggerInFront_append {rest : Text} (plain : rest.head? ≠ some (.char '\\')) (n : Nat) :
    TriggerInFront (backslashes n ++ rest) ↔ startsTrigger rest = true := by
  have dropped : (backslashes n ++ rest).dropWhile (· = .char '\\') = rest := by
    rw [backslashes, List.dropWhile_append_of_pos (by simp)]
    cases rest with
    | nil => rfl
    | cons c rest =>
        have other : c ≠ '\\' := by simpa using plain
        rw [List.dropWhile_cons_of_neg (by simpa using other)]
  rw [TriggerInFront, dropped]

theorem eq_of_startsTrigger {text : Text} (leads : startsTrigger text = true) :
    (∃ rest, text = .char '{' :: rest) ∨ (∃ rest, text = .char '$' :: rest) ∨
      ∃ rest, text = .char '!' :: .char '!' :: rest := by
  unfold startsTrigger at leads
  split at leads
  · exact Or.inl ⟨_, rfl⟩
  · exact Or.inr (Or.inl ⟨_, rfl⟩)
  · exact Or.inr (Or.inr ⟨_, rfl⟩)
  · cases leads

theorem head?_of_startsTrigger {text : Text} (leads : startsTrigger text = true) :
    text.head? ≠ some (.char '\\') := by
  rintro starts
  obtain ⟨rest, rfl⟩ := List.head?_eq_some_iff.mp starts
  cases leads

theorem backslashes_append_append (m n : Nat) (text : Text) :
    backslashes m ++ (backslashes n ++ text) = backslashes (m + n) ++ text := by
  rw [backslashes_add, List.append_assoc]

theorem strip_backslashes_append {rest : Text} (plain : rest.head? ≠ some (.char '\\')) (n : Nat) :
    strip (backslashes n ++ rest) =
      backslashes (if startsTrigger rest then n / 2 else n) ++ strip rest := by
  rw [strip, stripAfter_backslashes_append, Nat.zero_add]
  cases rest with
  | nil => simp [strip, stripAfter, startsTrigger]
  | cons c rest =>
      have other : c ≠ '\\' := by simpa using plain
      rw [strip, stripAfter_cons other, stripAfter_cons other]
      simp

theorem strip_of_triggerInFront {text : Text} (front : TriggerInFront text) (n : Nat) :
    strip (backslashes (2 * n) ++ text) = backslashes n ++ strip text := by
  obtain ⟨m, rest, rfl, plain⟩ := exists_eq_backslashes_append text
  have leads := (triggerInFront_append plain m).mp front
  rw [backslashes_append_append, strip_backslashes_append plain, strip_backslashes_append plain,
    backslashes_append_append, leads, if_pos rfl, if_pos rfl]
  congr 2
  omega

theorem strip_of_not_triggerInFront {text : Text} (quiet : ¬TriggerInFront text) (n : Nat) :
    strip (backslashes n ++ text) = backslashes n ++ strip text := by
  obtain ⟨m, rest, rfl, plain⟩ := exists_eq_backslashes_append text
  rw [triggerInFront_append plain] at quiet
  rw [backslashes_append_append, strip_backslashes_append plain, strip_backslashes_append plain,
    backslashes_append_append, if_neg quiet, if_neg quiet]

end Escape

namespace Pass

theorem Lawful.run_cons {pass : Pass} (lawful : pass.Lawful) {c : CodePoint} {rest : Text}
    (plain : c ≠ '\\') (unexpanded : pass.expands (c :: rest) = false) :
    pass.run (c :: rest) = c :: pass.run rest :=
  lawful.keeps 0 plain (by simp [unexpanded])

theorem Lawful.startsTrigger_run {pass : Pass} (lawful : pass.Lawful) {text : Text}
    (leads : startsTrigger text = true) (unexpanded : pass.expands text = false) :
    startsTrigger (pass.run text) = true := by
  rcases eq_of_startsTrigger leads with ⟨rest, rfl⟩ | ⟨rest, rfl⟩ | ⟨rest, rfl⟩
  · rw [lawful.run_cons (by decide) unexpanded]
    rfl
  · rw [lawful.run_cons (by decide) unexpanded]
    rfl
  · rw [lawful.run_cons (by decide) unexpanded,
      lawful.run_cons (by decide) (lawful.mark unexpanded)]
    rfl

theorem Lawful.run_of_not_triggerInFront {pass : Pass} (lawful : pass.Lawful) {text : Text}
    (quiet : ¬TriggerInFront text) (n : Nat) :
    pass.run (backslashes n ++ text) = backslashes n ++ pass.run text := by
  obtain ⟨m, rest, rfl, plain⟩ := exists_eq_backslashes_append text
  rw [triggerInFront_append plain] at quiet
  rw [backslashes_append_append]
  cases rest with
  | nil =>
      rw [List.append_nil, List.append_nil, lawful.ends, lawful.ends, backslashes_add]
  | cons c rest =>
      have other : c ≠ '\\' := by simpa using plain
      have unexpanded : pass.expands (c :: rest) = true → False :=
        fun expanded => quiet (lawful.trigger expanded)
      rw [lawful.keeps _ other (fun expanded => (unexpanded expanded).elim),
        lawful.keeps _ other (fun expanded => (unexpanded expanded).elim),
        backslashes_append_append]

theorem Lawful.run_of_not_expands {pass : Pass} (lawful : pass.Lawful) {text : Text}
    (leads : startsTrigger text = true) (unexpanded : pass.expands text = false) (n : Nat) :
    pass.run (backslashes n ++ text) = backslashes n ++ pass.run text := by
  cases text with
  | nil => cases leads
  | cons c rest =>
      have other : c ≠ '\\' := by simpa using head?_of_startsTrigger leads
      rw [lawful.keeps n other (by simp [unexpanded]), lawful.run_cons other unexpanded]

theorem Lawful.run_even {pass : Pass} (lawful : pass.Lawful) (n : Nat) (text : Text) :
    pass.run (backslashes (2 * n) ++ text) = backslashes n ++ pass.run text ∨
      pass.run (backslashes (2 * n) ++ text) = backslashes (2 * n) ++ pass.run text := by
  by_cases front : TriggerInFront text
  · obtain ⟨m, rest, rfl, plain⟩ := exists_eq_backslashes_append text
    have leads := (triggerInFront_append plain m).mp front
    rw [backslashes_append_append]
    cases expanded : pass.expands rest with
    | false =>
        right
        rw [lawful.run_of_not_expands leads expanded, lawful.run_of_not_expands leads expanded,
          backslashes_append_append]
    | true =>
        by_cases escaped : escapes m = true
        · right
          cases rest with
          | nil => cases leads
          | cons c rest =>
              have other : c ≠ '\\' := by simpa using plain
              rw [lawful.keeps _ other fun _ => escaped, lawful.keeps (2 * n + m) other,
                backslashes_append_append]
              intro _
              rwa [Nat.add_comm, escapes_add_two_mul]
        · left
          obtain ⟨half, rfl⟩ : ∃ half, m = 2 * half := by
            refine ⟨m / 2, ?_⟩
            simp only [escapes, decide_eq_true_eq] at escaped
            omega
          rw [← Nat.mul_add, lawful.halves _ expanded, lawful.halves _ expanded,
            backslashes_append_append]
  · right
    exact lawful.run_of_not_triggerInFront front _

variable {passes : List Pass}

/-- A run with a factor of two for each halving that may happen stays in front in part or whole. -/
theorem finish_even (lawful : ∀ pass ∈ passes, pass.Lawful) (n : Nat) (text : Text) :
    ∃ left ≤ 2 ^ (passes.length + 1) * n,
      finish passes (backslashes (2 ^ (passes.length + 1) * n) ++ text) =
        backslashes left ++ finish passes text := by
  induction passes generalizing n text with
  | nil =>
      by_cases front : TriggerInFront text
      · exact ⟨n, by simp only [List.length_nil]; omega, strip_of_triggerInFront front n⟩
      · exact ⟨_, Nat.le_refl _, strip_of_not_triggerInFront front _⟩
  | cons pass rest ih =>
      obtain ⟨lawfulPass, lawfulRest⟩ := List.forall_mem_cons.mp lawful
      have double : 2 ^ ((pass :: rest).length + 1) * n = 2 * (2 ^ (rest.length + 1) * n) := by
        rw [List.length_cons]
        ring
      rw [double]
      rcases lawfulPass.run_even (2 ^ (rest.length + 1) * n) text with halved | kept
      · obtain ⟨left, bound, finished⟩ := ih lawfulRest n (pass.run text)
        refine ⟨left, by omega, ?_⟩
        rw [finish, halved, finished]
        rfl
      · obtain ⟨left, bound, finished⟩ := ih lawfulRest (2 * n) (pass.run text)
        rw [Nat.mul_left_comm] at bound finished
        refine ⟨left, bound, ?_⟩
        rw [finish, kept, finished]
        rfl

theorem finish_of_startsTrigger (lawful : ∀ pass ∈ passes, pass.Lawful) (n : Nat) {text : Text}
    (leads : startsTrigger text = true) :
    ∃ left ≤ 2 ^ passes.length * n,
      finish passes (backslashes (2 ^ (passes.length + 1) * n) ++ text) =
        backslashes left ++ finish passes text := by
  induction passes generalizing n text with
  | nil =>
      have front : TriggerInFront text :=
        (triggerInFront_append (head?_of_startsTrigger leads) 0).mpr leads
      exact ⟨n, by simp, strip_of_triggerInFront front n⟩
  | cons pass rest ih =>
      obtain ⟨lawfulPass, lawfulRest⟩ := List.forall_mem_cons.mp lawful
      have double : 2 ^ ((pass :: rest).length + 1) * n = 2 * (2 ^ (rest.length + 1) * n) := by
        rw [List.length_cons]
        ring
      rw [double]
      cases expanded : pass.expands text with
      | true =>
          obtain ⟨left, bound, finished⟩ := finish_even lawfulRest n (pass.run text)
          refine ⟨left, bound, ?_⟩
          rw [finish, lawfulPass.halves _ expanded, finished]
          rfl
      | false =>
          obtain ⟨left, bound, finished⟩ :=
            ih lawfulRest (2 * n) (lawfulPass.startsTrigger_run leads expanded)
          rw [Nat.mul_left_comm] at finished
          refine ⟨left, ?_, ?_⟩
          · rw [List.length_cons, pow_succ, Nat.mul_assoc]
            exact bound
          · rw [finish, lawfulPass.run_of_not_expands leads expanded, finished]
            rfl

/-- Runs in front of a text are carried through all passes only if no trigger is in its front. -/
theorem not_triggerInFront_of_finish (lawful : ∀ pass ∈ passes, pass.Lawful) {text : Text}
    (carried : ∀ n, finish passes (backslashes n ++ text) = backslashes n ++ finish passes text) :
    ¬TriggerInFront text := by
  intro front
  obtain ⟨m, rest, rfl, plain⟩ := exists_eq_backslashes_append text
  have leads := (triggerInFront_append plain m).mp front
  obtain ⟨size, enough⟩ : ∃ size, m + (finish passes rest).length < size := ⟨_, Nat.lt_succ_self _⟩
  obtain ⟨left, bound, finished⟩ := finish_of_startsTrigger lawful size leads
  have double : 2 ^ (passes.length + 1) * size = 2 * (2 ^ passes.length * size) := by ring
  have large : size ≤ 2 ^ passes.length * size := Nat.le_mul_of_pos_left _ (Nat.two_pow_pos _)
  have same := carried (2 ^ (passes.length + 1) * size - m)
  rw [backslashes_append_append, Nat.sub_add_cancel (by omega), finished] at same
  have lengths := congrArg List.length same
  simp only [List.length_append, length_backslashes] at lengths
  omega

theorem finish_iff_stages (lawful : ∀ pass ∈ passes, pass.Lawful) (text : Text) :
    (∀ n, finish passes (backslashes n ++ text) = backslashes n ++ finish passes text) ↔
      ∀ stage ∈ stages passes text, ¬TriggerInFront stage := by
  induction passes generalizing text with
  | nil =>
      constructor
      · intro carried stage member
        rw [stages, List.mem_singleton] at member
        subst member
        exact not_triggerInFront_of_finish lawful carried
      · intro quiet n
        exact strip_of_not_triggerInFront (quiet text (List.mem_singleton.mpr rfl)) n
  | cons pass rest ih =>
      obtain ⟨lawfulPass, lawfulRest⟩ := List.forall_mem_cons.mp lawful
      rw [stages, List.forall_mem_cons, ← ih lawfulRest]
      constructor
      · intro carried
        have quiet := not_triggerInFront_of_finish lawful carried
        refine ⟨quiet, fun n => ?_⟩
        rw [← lawfulPass.run_of_not_triggerInFront quiet]
        exact carried n
      · rintro ⟨quiet, carried⟩ n
        rw [finish, lawfulPass.run_of_not_triggerInFront quiet, carried]
        rfl

/-- The run in front of the trigger of a line is halved exactly once, whatever its length, if and
only if none of the texts from the expansion of that trigger on has a trigger in front. -/
theorem finish_iff_exposed (lawful : ∀ pass ∈ passes, pass.Lawful) {text : Text}
    (leads : startsTrigger text = true) :
    (∀ n, finish passes (backslashes (2 * n) ++ text) = backslashes n ++ finish passes text) ↔
      ∀ stage ∈ exposed passes text, ¬TriggerInFront stage := by
  induction passes generalizing text with
  | nil =>
      have front : TriggerInFront text :=
        (triggerInFront_append (head?_of_startsTrigger leads) 0).mpr leads
      constructor
      · intro _ stage member
        cases member
      · exact fun _ n => strip_of_triggerInFront front n
  | cons pass rest ih =>
      obtain ⟨lawfulPass, lawfulRest⟩ := List.forall_mem_cons.mp lawful
      rw [exposed]
      cases expanded : pass.expands text with
      | true =>
          rw [if_pos rfl, ← finish_iff_stages lawfulRest]
          simp only [finish, lawfulPass.halves _ expanded]
      | false =>
          rw [if_neg (by simp), ← ih lawfulRest (lawfulPass.startsTrigger_run leads expanded)]
          simp only [finish, lawfulPass.run_of_not_expands leads expanded]

end Pass

end LineShell
