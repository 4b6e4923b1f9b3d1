import Mathlib.Data.List.TakeWhile
import LineShell.Proofs.Protection

/-!
Quoting: the backslashes that make a line expand to a given text. Braces and dollars get an odd run.
A run of exclamation marks is cut into pairs with a backslash before each, because the scan for
references goes on at the second mark of an escaped pair; an odd run starts with a single mark.
-/

namespace LineShell.Escape

def escapedPairs (count : Nat) : Text :=
  (List.replicate count [.char '\\', .char '!', .char '!']).flatten

/-- A maximal run of `marks` exclamation marks, quoted, with `run` backslashes before it. -/
def quoteMarks (run marks : Nat) : Text :=
  if marks % 2 = 0 then backslashes (2 * run + 1) ++ [.char '!', .char '!'] ++
    escapedPairs (marks / 2 - 1)
  else backslashes run ++ [.char '!'] ++ escapedPairs ((marks - 1) / 2)

def quoteAfter (run : Nat) (text : Text) : Text :=
  match text with
  | [] => backslashes run
  | c :: rest =>
      if c = '\\' then quoteAfter (run + 1) rest
      else if c = '{' ∨ c = '$' then backslashes (2 * run + 1) ++ c :: quoteAfter 0 rest
      else if c = '!' then
        quoteMarks run ((rest.takeWhile (· = .char '!')).length + 1) ++
          quoteAfter 0 (rest.dropWhile (· = .char '!'))
      else backslashes run ++ c :: quoteAfter 0 rest
termination_by text.length
decreasing_by
  all_goals simp only [List.length_cons]
  all_goals first
    | omega
    | (have shorter := (List.dropWhile_sublist (l := rest) (p := (· = '!'))).length_le; omega)

def quote (text : Text) : Text :=
  quoteAfter 0 text

theorem head?_escapedPairs_append (count : Nat) {rest : Text}
    (single : rest.head? ≠ some (.char '!')) :
    (escapedPairs count ++ rest).head? ≠ some (.char '!') := by
  cases count with
  | zero => exact single
  | succ count => simp [escapedPairs, List.replicate_succ]

theorem protectedAfter_pair {run : Nat} {rest : Text} (escaped : escapes run = true)
    (single : rest.head? ≠ some (.char '!')) (safe : ProtectedAfter 0 rest) :
    ProtectedAfter run (.char '!' :: .char '!' :: rest) := by
  rw [protectedAfter_cons (by decide), protectedAfter_cons (by decide)]
  refine ⟨fun _ => escaped, fun trigger => ?_, safe⟩
  rw [startsTrigger_mark single] at trigger
  cases trigger

theorem protectedAfter_escapedPairs (count : Nat) {rest : Text}
    (single : rest.head? ≠ some (.char '!'))
    (safe : ProtectedAfter 0 rest) : ProtectedAfter 0 (escapedPairs count ++ rest) := by
  induction count with
  | zero => exact safe
  | succ count ih =>
      change ProtectedAfter 0 (.char '\\' :: .char '!' :: .char '!' :: (escapedPairs count ++ rest))
      rw [protectedAfter_backslash]
      exact protectedAfter_pair rfl (head?_escapedPairs_append count single) ih

theorem protectedAfter_quoteMarks (run marks : Nat) {rest : Text}
    (single : rest.head? ≠ some (.char '!')) (safe : ProtectedAfter 0 rest) :
    ProtectedAfter 0 (quoteMarks run marks ++ rest) := by
  unfold quoteMarks
  split
  · rw [List.append_assoc, List.append_assoc, protectedAfter_backslashes_append]
    apply protectedAfter_pair
    · simp [escapes]
    · exact head?_escapedPairs_append _ single
    · exact protectedAfter_escapedPairs _ single safe
  · rw [List.append_assoc, List.append_assoc, protectedAfter_backslashes_append, Nat.zero_add,
      List.singleton_append, protectedAfter_cons (by decide)]
    refine ⟨fun trigger => ?_, protectedAfter_escapedPairs _ single safe⟩
    rw [startsTrigger_mark (head?_escapedPairs_append _ single)] at trigger
    cases trigger

theorem stripAfter_zero_cons {c : CodePoint} (plain : c ≠ '\\') (rest : Text) :
    stripAfter 0 (c :: rest) = c :: stripAfter 0 rest := by
  rw [stripAfter_cons plain, Nat.zero_div, ite_self]
  rfl

theorem stripAfter_escapedPairs (count : Nat) (rest : Text) :
    stripAfter 0 (escapedPairs count ++ rest) =
      List.replicate (2 * count) (.char '!') ++ stripAfter 0 rest := by
  induction count with
  | zero => rfl
  | succ count ih =>
      change stripAfter 0 (.char '\\' :: .char '!' :: .char '!' :: (escapedPairs count ++ rest)) = _
      rw [stripAfter_backslash, stripAfter_cons (by decide), stripAfter_zero_cons (by decide), ih]
      rfl

theorem stripAfter_quoteMarks (run : Nat) {marks : Nat} (present : 0 < marks) {rest : Text}
    (single : rest.head? ≠ some (.char '!')) :
    stripAfter 0 (quoteMarks run marks ++ rest) =
      backslashes run ++ (List.replicate marks (.char '!') ++ stripAfter 0 rest) := by
  unfold quoteMarks
  split
  · next even =>
      have half : (0 + (2 * run + 1)) / 2 = run := by omega
      have total : marks = 2 + 2 * (marks / 2 - 1) := by omega
      rw [List.append_assoc, List.append_assoc, stripAfter_backslashes_append, List.cons_append,
        List.singleton_append, stripAfter_cons (by decide), stripAfter_zero_cons (by decide),
        stripAfter_escapedPairs, if_pos (startsTrigger_pair _), half]
      conv => rhs; rw [total, ← List.replicate_append_replicate]
      rfl
  · next odd =>
      have total : marks = 1 + 2 * ((marks - 1) / 2) := by omega
      have plainMark := startsTrigger_mark (head?_escapedPairs_append ((marks - 1) / 2) single)
      rw [List.append_assoc, List.append_assoc, stripAfter_backslashes_append,
        List.singleton_append, stripAfter_cons (by decide), plainMark, stripAfter_escapedPairs,
        if_neg Bool.false_ne_true, Nat.zero_add]
      conv => rhs; rw [total, ← List.replicate_append_replicate]
      rfl

theorem head?_dropWhile_marks (text : Text) :
    (text.dropWhile (· = .char '!')).head? ≠ some (.char '!') := by
  intro marked
  have stopped := List.head?_dropWhile_not (· = .char '!') text
  rw [marked] at stopped
  simp at stopped

theorem head?_backslashes_append {c : CodePoint} {rest : Text} (unmarked : c ≠ '!') (n : Nat) :
    (backslashes n ++ c :: rest).head? ≠ some (.char '!') := by
  cases n with
  | zero => simpa using unmarked
  | succ n => simp [backslashes_succ]

/-- Quoting puts no exclamation mark in front, unless the text starts with one and no backslash
precedes it. -/
theorem head?_quoteAfter {run : Nat} {text : Text}
    (single : run = 0 → text.head? ≠ some (.char '!')) :
    (quoteAfter run text).head? ≠ some (.char '!') := by
  induction run, text using scan_induction with
  | nil run =>
      rw [quoteAfter]
      cases run <;> simp [backslashes_succ]
  | backslash run rest ih =>
      rw [quoteAfter, if_pos rfl]
      exact ih (fun impossible => absurd impossible (Nat.succ_ne_zero run))
  | plain run c rest plain ih =>
      rw [quoteAfter, if_neg plain]
      cases run with
      | zero =>
          have unmarked : c ≠ '!' := by simpa using single rfl
          rw [if_neg unmarked]
          split
          · exact head?_backslashes_append unmarked _
          · exact head?_backslashes_append unmarked _
      | succ run =>
          split
          · simp [backslashes_succ]
          · split
            · unfold quoteMarks
              split <;> simp [backslashes_succ]
            · simp [backslashes_succ]

theorem protectedAfter_quoteAfter (run : Nat) (text : Text) :
    ProtectedAfter 0 (quoteAfter run text) := by
  fun_induction quoteAfter run text with
  | case1 run =>
      have safe := (protectedAfter_backslashes_append 0 run []).mpr trivial
      rwa [List.append_nil] at safe
  | case2 run rest ih => exact ih
  | case3 run c rest plain trigger ih =>
      rw [protectedAfter_backslashes_append, protectedAfter_cons plain]
      exact ⟨fun _ => by simp [escapes], ih⟩
  | case4 run rest plain other ih =>
      exact protectedAfter_quoteMarks run _
        (head?_quoteAfter fun _ => head?_dropWhile_marks rest) ih
  | case5 run c rest plain other unmarked ih =>
      rw [protectedAfter_backslashes_append, protectedAfter_cons plain]
      refine ⟨fun trigger => ?_, ih⟩
      rw [not_or] at other
      rw [startsTrigger_other other.1 other.2 unmarked] at trigger
      cases trigger

theorem stripAfter_quoteAfter (run : Nat) (text : Text) :
    stripAfter 0 (quoteAfter run text) = backslashes run ++ text := by
  fun_induction quoteAfter run text with
  | case1 run =>
      have kept := stripAfter_backslashes_append 0 run []
      rw [List.append_nil] at kept
      rw [kept, Nat.zero_add, stripAfter, List.append_nil]
  | case2 run rest ih => rw [ih, backslashes_succ_append]
  | case3 run c rest plain trigger ih =>
      have half : (0 + (2 * run + 1)) / 2 = run := by omega
      rw [stripAfter_backslashes_append, stripAfter_cons plain,
        if_pos (startsTrigger_opener trigger _), half, ih]
      rfl
  | case4 run rest plain other ih =>
      have count : List.replicate (List.takeWhile (· = .char '!') rest).length (.char '!') =
          List.takeWhile (· = .char '!') rest := by
        refine (List.eq_replicate_iff.mpr ⟨rfl, fun c member => ?_⟩).symm
        simpa using List.mem_takeWhile_imp member
      rw [stripAfter_quoteMarks run (Nat.succ_pos _)
        (head?_quoteAfter fun _ => head?_dropWhile_marks rest), ih, List.replicate_succ, count]
      simp
  | case5 run c rest plain other unmarked ih =>
      rw [not_or] at other
      rw [stripAfter_backslashes_append, stripAfter_cons plain,
        startsTrigger_other other.1 other.2 unmarked, ih, if_neg Bool.false_ne_true, Nat.zero_add]
      rfl

/-- Every text can be quoted: the quoted line expands to the text alone, in every state and without
a change of it. -/
theorem expand_quote (state : State) (text : Text) :
    Expansion.expand state (quote text) = .ok ([text], state) := by
  have safe : Protected (quote text) := protectedAfter_quoteAfter 0 text
  have restored : strip (quote text) = text := stripAfter_quoteAfter 0 text
  rw [Expansion.expand_of_protected safe, restored]

end LineShell.Escape
