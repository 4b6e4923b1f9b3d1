import LineShell.Proofs.History.SelfReference
import LineShell.Proofs.Quoting

/-!
History references in closed form. A text falls into its maximal runs of exclamation marks, each
with the backslashes directly before it, and what stands between them. Resolving the references of
the text rewrites each such run on its own, by its two lengths alone, and copies the rest.
-/

namespace LineShell.History

open Escape

/-- A run of exclamation marks, the number of backslashes directly before it, and the text that
stands in front of these without a mark. -/
structure MarkRun where
  front : Text
  backslashes : Nat
  marks : Nat
  unmarked : .char '!' ∉ front
  exact : front.getLast? ≠ some (.char '\\')
  occupied : 0 < marks

namespace MarkRun

def text (part : MarkRun) : Text :=
  part.front ++ Escape.backslashes part.backslashes ++ List.replicate part.marks (.char '!')

def Apart (part : MarkRun) : Prop :=
  part.front ≠ [] ∨ part.backslashes ≠ 0

end MarkRun

structure MarkCut where
  parts : List MarkRun
  rest : Text
  unmarked : .char '!' ∉ rest
  maximal : ∀ part ∈ parts.tail, part.Apart

def MarkCut.text (cut : MarkCut) : Text :=
  cut.parts.flatMap MarkRun.text ++ cut.rest

/-- What becomes of a maximal run of exclamation marks with the given number of backslashes directly
before it. -/
def rewriteMarks (entry : Text) (run marks : Nat) : Text :=
  if marks = 1 then backslashes run ++ [.char '!']
  else if run % 2 = 0 then
    backslashes (run / 2) ++ (List.replicate (marks / 2) entry).flatten ++
      List.replicate (marks % 2) (.char '!')
  else
    backslashes run ++ [.char '!'] ++ (List.replicate ((marks - 1) / 2) entry).flatten ++
      List.replicate ((marks - 1) % 2) (.char '!')

def MarkCut.rewritten (entry : Text) (cut : MarkCut) : Text :=
  cut.parts.flatMap (fun part => part.front ++ rewriteMarks entry part.backslashes part.marks) ++
    cut.rest

theorem MarkCut.exists_cons (c : CodePoint) (cut : MarkCut) :
    ∃ whole : MarkCut, whole.text = c :: cut.text := by
  obtain ⟨parts, rest, unmarked, maximal⟩ := cut
  by_cases mark : c = '!'
  · subst mark
    cases parts with
    | nil =>
        refine ⟨⟨[⟨[], 0, 1, by simp, by simp, by decide⟩], rest, unmarked, by simp⟩, ?_⟩
        rfl
    | cons first others =>
        by_cases apart : first.Apart
        · refine ⟨⟨⟨[], 0, 1, by simp, by simp, by decide⟩ :: first :: others, rest, unmarked, ?_⟩,
            ?_⟩
          · intro part member
            rcases List.mem_cons.mp member with rfl | later
            · exact apart
            · exact maximal part later
          · rfl
        · obtain ⟨front, run, marks, noMark, exact, occupied⟩ := first
          obtain ⟨noFront, noRun⟩ := not_or.mp apart
          have emptyFront : front = [] := not_not.mp noFront
          have emptyRun : run = 0 := not_not.mp noRun
          subst emptyFront emptyRun
          refine ⟨⟨⟨[], 0, marks + 1, by simp, by simp, by omega⟩ :: others, rest, unmarked,
            maximal⟩, ?_⟩
          rfl
  · cases parts with
    | nil =>
        refine ⟨⟨[], c :: rest, ?_, by simp⟩, rfl⟩
        rw [List.mem_cons, not_or]
        exact ⟨Ne.symm mark, unmarked⟩
    | cons first others =>
        obtain ⟨front, run, marks, noMark, exact, occupied⟩ := first
        by_cases joins : front = [] ∧ c = '\\'
        · obtain ⟨rfl, rfl⟩ := joins
          exact ⟨⟨⟨[], run + 1, marks, by simp, by simp, occupied⟩ :: others, rest, unmarked,
            maximal⟩, rfl⟩
        · refine ⟨⟨⟨c :: front, run, marks, ?_, ?_, occupied⟩ :: others, rest, unmarked,
            maximal⟩, rfl⟩
          · rw [List.mem_cons, not_or]
            exact ⟨Ne.symm mark, noMark⟩
          · cases front with
            | nil =>
                intro last
                exact joins ⟨rfl, Option.some_inj.mp last⟩
            | cons d front =>
                rw [List.getLast?_cons_cons]
                exact exact

theorem exists_markCut (text : Text) : ∃ cut : MarkCut, cut.text = text := by
  induction text with
  | nil => exact ⟨⟨[], [], by simp, by simp⟩, rfl⟩
  | cons c text ih =>
      obtain ⟨cut, rfl⟩ := ih
      exact cut.exists_cons c

theorem resolveAfter_unmarked {text : Text} (unmarked : .char '!' ∉ text) (entry : Text)
    (run : Nat) :
    resolveAfter entry run text = backslashes run ++ text := by
  induction run, text using scan_induction with
  | nil run => rw [resolveAfter, List.append_nil]
  | backslash run rest ih =>
      rw [resolveAfter_backslash, ih (List.not_mem_of_not_mem_cons unmarked),
        backslashes_succ_append]
  | plain run c rest plain ih =>
      have noMark : c ≠ '!' := (List.ne_of_not_mem_cons unmarked).symm
      rw [resolveAfter_cons plain (fun mark => absurd mark noMark),
        ih (List.not_mem_of_not_mem_cons unmarked)]
      rfl

theorem resolveAfter_front {front : Text} (unmarked : .char '!' ∉ front)
    (exact : front.getLast? ≠ some (.char '\\')) (entry rest : Text) :
    resolveAfter entry 0 (front ++ rest) = front ++ resolveAfter entry 0 rest := by
  have passed (run : Nat) (ends : front = [] → run = 0) :
      resolveAfter entry run (front ++ rest) =
        backslashes run ++ front ++ resolveAfter entry 0 rest := by
    induction run, front using scan_induction with
    | nil run =>
        rw [ends rfl]
        rfl
    | backslash run front ih =>
        have goesOn : front ≠ [] := by
          rintro rfl
          exact exact rfl
        have exactBehind : front.getLast? ≠ some (.char '\\') := by
          intro last
          exact exact (List.mem_getLast?_cons last)
        rw [List.cons_append, resolveAfter_backslash,
          ih (List.not_mem_of_not_mem_cons unmarked) exactBehind (fun none => absurd none goesOn),
          backslashes_succ_append]
    | plain run c front plain ih =>
        have noMark : c ≠ '!' := (List.ne_of_not_mem_cons unmarked).symm
        have exactBehind : front.getLast? ≠ some (.char '\\') := by
          intro last
          exact exact (List.mem_getLast?_cons last)
        rw [List.cons_append, resolveAfter_cons plain (fun mark => absurd mark noMark),
          ih (List.not_mem_of_not_mem_cons unmarked) exactBehind (fun _ => rfl)]
        simp
  exact passed 0 (fun _ => rfl)

theorem resolveAfter_mark (entry : Text) (run : Nat) {rest : Text}
    (single : rest.head? ≠ some (.char '!')) :
    resolveAfter entry run (.char '!' :: rest) =
      backslashes run ++ .char '!' :: resolveAfter entry 0 rest := by
  rw [resolveAfter_cons (by decide)]
  intro _ trigger
  rw [startsTrigger_mark single] at trigger
  cases trigger

theorem pairs_add_two (entry : Text) (marks : Nat) :
    (List.replicate ((marks + 2) / 2) entry).flatten ++
      List.replicate ((marks + 2) % 2) (.char '!') =
      entry ++ ((List.replicate (marks / 2) entry).flatten ++
        List.replicate (marks % 2) (.char '!')) := by
  have pairs : (marks + 2) / 2 = marks / 2 + 1 := by omega
  have odd : (marks + 2) % 2 = marks % 2 := by omega
  rw [pairs, odd, List.replicate_succ, List.flatten_cons, List.append_assoc]

theorem resolveAfter_marks (entry : Text) (marks : Nat) {rest : Text}
    (single : rest.head? ≠ some (.char '!')) :
    resolveAfter entry 0 (List.replicate marks (.char '!') ++ rest) =
      (List.replicate (marks / 2) entry).flatten ++ List.replicate (marks % 2) (.char '!') ++
        resolveAfter entry 0 rest := by
  induction marks using Nat.twoStepInduction with
  | zero => rfl
  | one => exact resolveAfter_mark entry 0 single
  | more marks ih _ =>
      change resolveAfter entry 0
        (.char '!' :: .char '!' :: (List.replicate marks (.char '!') ++ rest)) = _
      rw [resolveAfter_pair rfl, ih, pairs_add_two, List.append_assoc entry]
      rfl

/-- A maximal run of marks is rewritten by its length and that of the backslash run before it. -/
theorem resolveAfter_markRun (entry : Text) (run : Nat) {marks : Nat} (occupied : 0 < marks)
    {rest : Text} (single : rest.head? ≠ some (.char '!')) :
    resolveAfter entry run (List.replicate marks (.char '!') ++ rest) =
      rewriteMarks entry run marks ++ resolveAfter entry 0 rest := by
  rw [rewriteMarks]
  by_cases one : marks = 1
  · rw [if_pos one, one]
    change resolveAfter entry run (.char '!' :: rest) = _
    rw [resolveAfter_mark entry run single, List.append_assoc]
    rfl
  · rw [if_neg one]
    by_cases even : run % 2 = 0
    · obtain ⟨others, rfl⟩ : ∃ others, marks = others + 2 := ⟨marks - 2, by omega⟩
      have unescaped : escapes run = false := by simp [escapes, even]
      change resolveAfter entry run
        (.char '!' :: .char '!' :: (List.replicate others (.char '!') ++ rest)) = _
      rw [if_pos even, resolveAfter_pair unescaped, resolveAfter_marks entry others single,
        List.append_assoc (backslashes _), pairs_add_two]
      simp only [List.append_assoc]
    · obtain ⟨others, rfl⟩ : ∃ others, marks = others + 1 := ⟨marks - 1, by omega⟩
      have escaped : escapes run = true := by simp [escapes]; omega
      change resolveAfter entry run (.char '!' :: (List.replicate others (.char '!') ++ rest)) = _
      rw [if_neg even, resolveAfter_cons (by decide) (fun _ _ => escaped),
        resolveAfter_marks entry others single, Nat.add_sub_cancel]
      simp

theorem head?_parts {parts : List MarkRun} {rest : Text} (unmarked : .char '!' ∉ rest)
    (apart : ∀ part ∈ parts.head?, part.Apart) :
    (parts.flatMap MarkRun.text ++ rest).head? ≠ some (.char '!') := by
  intro marked
  cases parts with
  | nil => exact unmarked (List.mem_of_mem_head? marked)
  | cons first others =>
      have apartFirst := apart first rfl
      obtain ⟨front, run, marks, noMark, exact, occupied⟩ := first
      cases front with
      | nil =>
          have positive : run ≠ 0 := apartFirst.resolve_left (fun filled => filled rfl)
          obtain ⟨fewer, rfl⟩ := Nat.exists_eq_succ_of_ne_zero positive
          cases marked
      | cons c front =>
          cases marked
          exact noMark List.mem_cons_self

theorem resolveAfter_parts (entry : Text) {parts : List MarkRun} {rest : Text}
    (unmarked : .char '!' ∉ rest) (maximal : ∀ part ∈ parts.tail, part.Apart) :
    resolveAfter entry 0 (parts.flatMap MarkRun.text ++ rest) =
      parts.flatMap (fun part =>
        part.front ++ rewriteMarks entry part.backslashes part.marks) ++ rest := by
  induction parts with
  | nil => exact resolveAfter_unmarked unmarked entry 0
  | cons first others ih =>
      have apart : ∀ part ∈ others.head?, part.Apart := by
        intro part next
        exact maximal part (List.mem_of_mem_head? next)
      have behind := ih fun part member => maximal part (List.mem_of_mem_tail member)
      rw [List.flatMap_cons, List.flatMap_cons, MarkRun.text, List.append_assoc, List.append_assoc,
        List.append_assoc, resolveAfter_front first.unmarked first.exact,
        resolveAfter_backslashes_append, Nat.zero_add,
        resolveAfter_markRun entry _ first.occupied (head?_parts unmarked apart), behind]
      simp

/-- Every text is cut into its runs of exclamation marks, and to resolve its references is to
rewrite each of them by its lengths and to copy the rest. The last entry is only put in: between
which parts of the text it stands does not depend on it. -/
theorem resolve_rewrites_runs :
    (∀ text, ∃ cut : MarkCut, cut.text = text) ∧
      (∀ (cut : MarkCut) (history : List Text),
        resolve history cut.text = cut.rewritten (last history)) ∧
      ∀ text, ∃ stretches : List Text, ∀ history,
        resolve history text = (last history).intercalate stretches := by
  refine ⟨exists_markCut, fun cut history => ?_, fun text => ?_⟩
  · exact resolveAfter_parts (last history) cut.unmarked cut.maximal
  · exact ⟨stretchesAfter 0 text, fun history =>
      resolveAfter_eq_intercalate (last history) 0 text⟩

end LineShell.History
