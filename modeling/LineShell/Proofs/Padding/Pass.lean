import LineShell.Proofs.Arithmetic.Concatenation
import LineShell.Proofs.Brace.Concatenation
import LineShell.Proofs.Execution
import LineShell.Proofs.Halving.Expansion
import LineShell.Proofs.PlainLine
import LineShell.Proofs.Reference.Concatenation

/-!
Blanks around a line. No pass of the expansion looks at a blank but inside a construct, and nothing
that begins in a line goes on behind the last of its other characters, so blanks at the edges go
through all passes as they are. They are gone before a command is executed, and only the history
tells the line from its trimmed form.
-/

namespace LineShell

open Escape

def Text.around (lead tail text : Text) : Text :=
  lead ++ (text ++ tail)

variable {lead tail : Text}

namespace Escape

theorem protectedAfter_of_allBlank {text : Text} (blank : Text.allBlank text = true) (run : Nat) :
    ProtectedAfter run text :=
  protectedAfter_of_plain (plain_of_allBlank blank) run

theorem startsTrigger_of_allBlank {text : Text} (blank : Text.allBlank text = true) :
    startsTrigger text = false := by
  cases text with
  | nil => rfl
  | cons c rest =>
      obtain ⟨-, noBrace, noDollar, noMark⟩ := plain_of_allBlank blank c List.mem_cons_self
      exact startsTrigger_other noBrace noDollar noMark rest

theorem startsTrigger_append_blanks (blank : Text.allBlank tail = true) (text : Text) :
    startsTrigger (text ++ tail) = startsTrigger text := by
  cases text with
  | nil => exact startsTrigger_of_allBlank blank
  | cons c rest =>
      by_cases mark : c = '!'
      · subst mark
        cases rest with
        | nil =>
            apply startsTrigger_mark
            intro pair
            have member : .char '!' ∈ tail := List.mem_of_head? pair
            exact (plain_of_allBlank blank '!' member).2.2.2 rfl
        | cons d rest =>
            by_cases pair : d = '!'
            · subst pair
              rfl
            · have single (others : Text) : (d :: others).head? ≠ some (.char '!') := by
                simpa using pair
              rw [List.cons_append, List.cons_append, startsTrigger_mark (single _),
                startsTrigger_mark (single _)]
      · by_cases opener : c = '{' ∨ c = '$'
        · rw [List.cons_append, startsTrigger_opener opener, startsTrigger_opener opener]
        · obtain ⟨noBrace, noDollar⟩ := not_or.mp opener
          rw [List.cons_append, startsTrigger_other noBrace noDollar mark,
            startsTrigger_other noBrace noDollar mark]

theorem stripAfter_append_blanks (blank : Text.allBlank tail = true) (run : Nat) (text : Text) :
    stripAfter run (text ++ tail) = stripAfter run text ++ tail := by
  induction run, text using scan_induction with
  | nil run => exact stripAfter_of_plain (plain_of_allBlank blank) run
  | backslash run rest ih => exact ih
  | plain run c rest plain ih =>
      have same := startsTrigger_append_blanks blank (c :: rest)
      rw [List.cons_append] at same
      rw [List.cons_append, stripAfter_cons plain, stripAfter_cons plain, same, ih]
      simp

end Escape

theorem Pass.Lawful.run_blanks_append {pass : Pass} (lawful : pass.Lawful)
    (blank : Text.allBlank lead = true) (text : Text) :
    pass.run (lead ++ text) = lead ++ pass.run text := by
  induction lead with
  | nil => rfl
  | cons c rest ih =>
      obtain ⟨here, others⟩ := List.forall_mem_cons.mp (Text.allBlank_eq_true_iff.mp blank)
      have unexpanded : pass.expands (c :: (rest ++ text)) = false := by
        rw [← Bool.not_eq_true]
        intro expanded
        obtain ⟨-, noBrace, noDollar, noMark⟩ := plain_of_allBlank blank c List.mem_cons_self
        have leads := lawful.trigger expanded
        rw [startsTrigger_other noBrace noDollar noMark] at leads
        cases leads
      rw [List.cons_append, lawful.run_cons (Text.ne_of_isBlank here (by decide)) unexpanded,
        ih (Text.allBlank_eq_true_iff.mpr others)]
      rfl

theorem Reference.replace_blanks_append (blank : Text.allBlank lead = true) (text : Text)
    (store : Store) :
    replace (lead ++ text) store = prepend lead (replace text store) := by
  have noDollar : .char '$' ∉ lead := fun member => (plain_of_allBlank blank '$' member).2.2.1 rfl
  have noBackslash : .char '\\' ∉ lead := fun member => (plain_of_allBlank blank '\\' member).1 rfl
  unfold replace
  rw [replaceAfter_append_of_seam, replaceAfter_of_protectedAfter]
  · rfl
  · exact protectedAfter_of_allBlank blank 0
  · exact fun rest opened => absurd (opened.subset List.mem_cons_self) noDollar
  · intro n next ends
    cases n with
    | zero => rfl
    | succ n => exact absurd (ends.subset List.mem_cons_self) noBackslash

theorem Reference.lookups_blanks_append (blank : Text.allBlank lead = true) (text : Text)
    (store : Store) : lookups (lead ++ text) store = lookups text store := by
  induction lead with
  | nil => rfl
  | cons c rest ih =>
      obtain ⟨here, others⟩ := List.forall_mem_cons.mp (Text.allBlank_eq_true_iff.mp blank)
      have plain : c ≠ '\\' := Text.ne_of_isBlank here (by decide)
      have noDollar : c ≠ '$' := Text.ne_of_isBlank here (by decide)
      rw [List.cons_append, lookups, lookupsAfter_cons plain fun dollar => absurd dollar noDollar]
      exact ih (Text.allBlank_eq_true_iff.mpr others)

theorem Escape.strip_blanks_append (blank : Text.allBlank lead = true) (text : Text) :
    strip (lead ++ text) = lead ++ strip text := by
  induction lead with
  | nil => rfl
  | cons c rest ih =>
      obtain ⟨here, others⟩ := List.forall_mem_cons.mp (Text.allBlank_eq_true_iff.mp blank)
      have plain : c ≠ '\\' := Text.ne_of_isBlank here (by decide)
      have behind := ih (Text.allBlank_eq_true_iff.mpr others)
      rw [strip] at behind
      rw [strip, List.cons_append, stripAfter_cons plain, Nat.zero_div, ite_self, behind]
      rfl

section Behind

variable (blank : Text.allBlank tail = true)
include blank

theorem Text.notMem_of_allBlank {c : CodePoint} (visible : Text.isBlank c = false) : c ∉ tail :=
  fun member => ne_of_isBlank (allBlank_eq_true_iff.mp blank c member) visible rfl

theorem History.resolveAfter_append_blanks (entry : Text) (run : Nat) (text : Text) :
    resolveAfter entry run (text ++ tail) = resolveAfter entry run text ++ tail := by
  have afterRun (run : Nat) : resolveAfter entry run tail = backslashes run ++ tail :=
    resolveAfter_of_protectedAfter (protectedAfter_of_allBlank blank run) entry
  fun_induction resolveAfter entry run text with
  | case1 run => exact afterRun run
  | case2 run => exact (resolveAfter_backslash entry run tail).trans (afterRun (run + 1))
  | case3 run c plain =>
      have single (mark : c = '!') (leads : startsTrigger (c :: tail) = true) :
          escapes run = true := by
        have alone := startsTrigger_append_blanks blank [c]
        rw [List.singleton_append, leads, mark] at alone
        cases alone
      rw [List.singleton_append, resolveAfter_cons plain single, afterRun, List.append_assoc]
      rfl
  | case4 run d rest ih =>
      rw [List.cons_append, resolveAfter_backslash]
      exact ih
  | case5 run c d rest plain pair ih =>
      obtain ⟨⟨rfl, rfl⟩, unescaped⟩ : (c = '!' ∧ d = '!') ∧ escapes run = false := by
        simpa using pair
      rw [List.cons_append, List.cons_append, resolveAfter_pair unescaped, ih]
      simp only [List.append_assoc]
  | case6 run c d rest plain other ih =>
      have stays (mark : c = '!') (leads : startsTrigger (c :: (d :: rest ++ tail)) = true) :
          escapes run = true := by
        subst mark
        have pair : d = '!' := by
          by_contra single
          rw [startsTrigger_mark (by simpa using single)] at leads
          cases leads
        simpa [pair] using other
      rw [List.cons_append, resolveAfter_cons plain stays, ih, List.append_assoc]
      rfl

theorem Reference.take?_append_blanks (text : Text) :
    take? (text ++ tail) =
      (take? text).map fun (reference, after) => (reference, after ++ tail) := by
  by_cases braced : ∃ rest, text = .char '{' :: rest
  · obtain ⟨rest, rfl⟩ := braced
    rw [List.cons_append, take?, take?]
    cases cut : Text.cutAt '}' rest with
    | none =>
        have absent : .char '}' ∉ rest ++ tail := by
          rw [List.mem_append, not_or]
          exact ⟨Text.cutAt_eq_none_iff.mp cut, Text.notMem_of_allBlank blank (by decide)⟩
        rw [Text.cutAt_eq_none_iff.mpr absent]
        rfl
    | some found =>
        obtain ⟨body, after⟩ := found
        obtain ⟨rfl, absent⟩ := Text.cutAt_eq_some cut
        rw [List.append_assoc, List.cons_append, Text.cutAt_append absent]
        simp [Option.map_map, Function.comp_def]
  · cases tail with
    | nil => simp
    | cons b others =>
        have here : Text.isBlank b = true :=
          Text.allBlank_eq_true_iff.mp blank b List.mem_cons_self
        rw [take?_of_bare (fun rest same => braced ⟨rest, same⟩), take?_of_bare,
          Text.takeName?_append_mark (Text.isWordCharacter_of_isBlank here), Option.map_map,
          Option.map_map]
        · rfl
        · intro rest same
          cases text with
          | nil =>
              cases same
              cases here
          | cons c text =>
              cases same
              exact braced ⟨text, rfl⟩

theorem Reference.replace_append_blanks (text : Text) (store : Store) :
    replace (text ++ tail) store = ((replace text store).1 ++ tail, (replace text store).2) := by
  have afterRun (run : Nat) (next : Store) :
      replaceAfter run tail next = (backslashes run ++ tail, next) :=
    replaceAfter_of_protectedAfter (protectedAfter_of_allBlank blank run) next
  unfold replace
  rw [replaceAfter_append_of_seam, afterRun]
  · rfl
  · exact fun rest _ => take?_append_blanks blank rest
  · intro n next _
    rw [afterRun, afterRun]
    rfl

theorem Reference.lookups_append_blanks (text : Text) (store : Store) :
    lookups (text ++ tail) store = lookups text store := by
  have nothing (run : Nat) (next : Store) : lookupsAfter run tail next = [] :=
    lookupsAfter_of_protectedAfter (protectedAfter_of_allBlank blank run) next
  unfold lookups
  rw [lookupsAfter_append_of_seam, nothing, List.append_nil]
  · exact fun rest _ => take?_append_blanks blank rest
  · intro n next _
    rw [nothing, nothing]

namespace Arithmetic

theorem takeBalanced?_append_blanks (depth : Nat) (text : Text) :
    takeBalanced? depth (text ++ tail) =
      (takeBalanced? depth text).map fun (expression, after) => (expression, after ++ tail) := by
  have noClosing : .char ')' ∉ tail := Text.notMem_of_allBlank blank (by decide)
  induction text generalizing depth with
  | nil =>
      cases found : takeBalanced? depth tail with
      | none => exact found
      | some taken =>
          have shape := takeBalanced?_eq_some found
          exact absurd (by rw [shape]; simp) noClosing
  | cons c rest ih =>
      rw [List.cons_append]
      unfold takeBalanced?
      by_cases ends : (c = ')' && depth = 0) = true
      · rw [if_pos ends, if_pos ends]
        cases rest with
        | nil =>
            cases tail with
            | nil => rfl
            | cons b others =>
                have other : b ≠ ')' := (List.ne_of_not_mem_cons noClosing).symm
                simp [other]
        | cons d rest =>
            by_cases closing : d = ')'
            · subst closing
              rfl
            · simp [closing]
      · rw [if_neg ends, if_neg ends]
        dsimp only
        rw [ih, Option.map_map, Option.map_map]
        rfl

theorem valueAt?_append_blanks (text : Text) :
    valueAt? (text ++ tail) = (valueAt? text).map fun (value, after) => (value, after ++ tail) := by
  by_cases begins : ∃ inside, text = .char '(' :: .char '(' :: inside
  · obtain ⟨inside, rfl⟩ := begins
    simp only [List.cons_append, valueAt?, takeBalanced?_append_blanks blank]
    cases takeBalanced? 0 inside with
    | none => rfl
    | some found => simp [Option.map_map, Function.comp_def]
  · have noOpening : .char '(' ∉ tail := Text.notMem_of_allBlank blank (by decide)
    have apart (inside : Text) : text ++ tail ≠ .char '(' :: .char '(' :: inside := by
      intro same
      rcases List.append_eq_cons_iff.mp same with ⟨-, rfl⟩ | ⟨rest, rfl, others⟩
      · exact noOpening List.mem_cons_self
      · rcases List.append_eq_cons_iff.mp others.symm with ⟨-, rfl⟩ | ⟨more, rfl, -⟩
        · exact noOpening List.mem_cons_self
        · exact begins ⟨more, rfl⟩
    rw [valueAt?_of_not_begins apart, valueAt?_of_not_begins fun inside same =>
      begins ⟨inside, same⟩]
    rfl

theorem reduce_append_blanks (text : Text) : reduce (text ++ tail) = reduce text ++ tail := by
  have afterRun (run : Nat) : reduceAfter run tail = backslashes run ++ tail :=
    reduceAfter_of_protectedAfter (protectedAfter_of_allBlank blank run)
  unfold reduce
  rw [reduceAfter_append_of_seam, afterRun]
  · rfl
  · intro rest _
    rw [afterRun]
    exact valueAt?_append_blanks blank _
  · intro n _
    rw [afterRun, afterRun]
    rfl

end Arithmetic

end Behind

section Around

variable (blankLead : Text.allBlank lead = true) (blankTail : Text.allBlank tail = true)
include blankLead blankTail

theorem History.resolve_around (history : List Text) (text : Text) :
    resolve history (Text.around lead tail text) =
      Text.around lead tail (resolve history text) := by
  have front := (pass_lawful history).run_blanks_append blankLead (text ++ tail)
  exact front.trans (congrArg (lead ++ ·) (resolveAfter_append_blanks blankTail _ 0 text))

theorem Reference.replace_around (text : Text) (store : Store) :
    replace (Text.around lead tail text) store =
      (Text.around lead tail (replace text store).1, (replace text store).2) := by
  rw [Text.around, replace_blanks_append blankLead, replace_append_blanks blankTail]
  rfl

theorem Reference.lookups_around (text : Text) (store : Store) :
    lookups (Text.around lead tail text) store = lookups text store := by
  rw [Text.around, lookups_blanks_append blankLead, lookups_append_blanks blankTail]

theorem Arithmetic.reduce_around (text : Text) :
    reduce (Text.around lead tail text) = Text.around lead tail (reduce text) := by
  have front := pass_lawful.run_blanks_append blankLead (text ++ tail)
  exact front.trans (congrArg (lead ++ ·) (reduce_append_blanks blankTail text))

theorem Escape.strip_around (text : Text) :
    strip (Text.around lead tail text) = Text.around lead tail (strip text) := by
  rw [Text.around, strip_blanks_append blankLead, strip, stripAfter_append_blanks blankTail]
  rfl

end Around

end LineShell
