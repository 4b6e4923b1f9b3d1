import LineShell.Expansion

/-!
How each scan reads a backslash run. Backslashes at the front of a text only add to the run that the
scan carries, so the run of a text can be moved between the two; at the first other character the
scan decides how much of the run stays.
-/

namespace LineShell

namespace Escape

@[simp] theorem backslashes_zero : backslashes 0 = [] := rfl

theorem backslashes_succ (n : Nat) : backslashes (n + 1) = .char '\\' :: backslashes n := rfl

theorem backslashes_add (m n : Nat) :
    backslashes (m + n) = backslashes m ++ backslashes n :=
  (List.replicate_append_replicate ..).symm

theorem backslashes_succ_append (n : Nat) (rest : Text) :
    backslashes (n + 1) ++ rest = backslashes n ++ .char '\\' :: rest := by
  rw [backslashes_add, List.append_assoc]
  rfl

@[simp] theorem length_backslashes (n : Nat) : (backslashes n).length = n :=
  List.length_replicate

theorem notMem_backslashes {c : CodePoint} (plain : c ≠ '\\') (n : Nat) : c ∉ backslashes n :=
  fun member => plain (List.eq_of_mem_replicate member)

@[elab_as_elim]
theorem scan_induction {motive : Nat → Text → Prop} (nil : ∀ run, motive run [])
    (backslash : ∀ run rest, motive (run + 1) rest → motive run (.char '\\' :: rest))
    (plain : ∀ run (c : CodePoint) rest, c ≠ '\\' → motive 0 rest → motive run (c :: rest))
    (run : Nat) (text : Text) : motive run text := by
  induction text generalizing run with
  | nil => exact nil run
  | cons c rest ih =>
      by_cases same : c = '\\'
      · subst same
        exact backslash run rest (ih (run + 1))
      · exact plain run c rest same (ih 0)

theorem escapes_add_two_mul (run n : Nat) : escapes (run + 2 * n) = escapes run := by
  unfold escapes
  rw [Nat.add_mul_mod_self_left]

theorem escapes_add (m n : Nat) : escapes (m + n) = (escapes m ^^ escapes n) := by
  unfold escapes
  rcases Nat.mod_two_eq_zero_or_one m with even | odd
  · rcases Nat.mod_two_eq_zero_or_one n with even' | odd'
    · simp [Nat.add_mod, even, even']
    · simp [Nat.add_mod, even, odd']
  · rcases Nat.mod_two_eq_zero_or_one n with even' | odd'
    · simp [Nat.add_mod, odd, even']
    · simp [Nat.add_mod, odd, odd']

theorem startsTrigger_pair (rest : Text) : startsTrigger (.char '!' :: .char '!' :: rest) = true :=
  rfl

theorem startsTrigger_opener {c : CodePoint} (opener : c = '{' ∨ c = '$') (rest : Text) :
    startsTrigger (c :: rest) = true := by
  rcases opener with rfl | rfl <;> rfl

theorem startsTrigger_mark {rest : Text} (single : rest.head? ≠ some (.char '!')) :
    startsTrigger (.char '!' :: rest) = false := by
  cases rest with
  | nil => rfl
  | cons d rest =>
      unfold startsTrigger
      split <;> simp_all

theorem startsTrigger_other {c : CodePoint}
    (noBrace : c ≠ '{') (noDollar : c ≠ '$') (noMark : c ≠ '!')
    (rest : Text) : startsTrigger (c :: rest) = false := by
  unfold startsTrigger
  split <;> simp_all

theorem runAtEnd_concat_backslash (text : Text) :
    runAtEnd (text ++ [.char '\\']) = runAtEnd text + 1 := by
  simp [runAtEnd]

theorem runAtEnd_append_backslashes (text : Text) (n : Nat) :
    runAtEnd (text ++ backslashes n) = runAtEnd text + n := by
  induction n with
  | zero => rw [backslashes_zero, List.append_nil, Nat.add_zero]
  | succ n ih =>
      have last : backslashes (n + 1) = backslashes n ++ [.char '\\'] := backslashes_add n 1
      rw [last, ← List.append_assoc, runAtEnd_concat_backslash, ih, Nat.add_assoc]

theorem runAtEnd_backslashes (n : Nat) : runAtEnd (backslashes n) = n := by
  have counted := runAtEnd_append_backslashes [] n
  have nothing : runAtEnd [] = 0 := rfl
  rwa [List.nil_append, nothing, Nat.zero_add] at counted

theorem runAtEnd_append_cons {c : CodePoint} (plain : c ≠ '\\') (front rest : Text) :
    runAtEnd (front ++ c :: rest) = runAtEnd rest := by
  unfold runAtEnd
  rw [List.reverse_append, List.reverse_cons, List.append_assoc, List.takeWhile_append,
    List.singleton_append, List.takeWhile_cons_of_neg (by simpa using plain), List.append_nil]
  split
  · next whole => rw [whole]
  · rfl

theorem runAtEnd_concat {c : CodePoint} (plain : c ≠ '\\') (text : Text) :
    runAtEnd (text ++ [c]) = 0 := by
  simp [runAtEnd, plain]

theorem runAtEnd_eq_zero {text : Text} (noBackslash : text.getLast? ≠ some (.char '\\')) :
    runAtEnd text = 0 := by
  rw [List.getLast?_eq_head?_reverse] at noBackslash
  unfold runAtEnd
  cases shape : text.reverse with
  | nil => rfl
  | cons c front =>
      rw [shape] at noBackslash
      have plain : c ≠ '\\' := fun same => noBackslash (by rw [same, List.head?_cons])
      rw [List.takeWhile_cons_of_neg (by simpa using plain), List.length_nil]

theorem exists_eq_backslashes_append (text : Text) :
    ∃ n rest, text = backslashes n ++ rest ∧ rest.head? ≠ some (.char '\\') := by
  induction text with
  | nil => exact ⟨0, [], rfl, nofun⟩
  | cons c text ih =>
      by_cases same : c = '\\'
      · obtain ⟨n, rest, rfl, plain⟩ := ih
        exact ⟨n + 1, rest, by rw [same]; rfl, plain⟩
      · exact ⟨0, c :: text, rfl, by simpa using same⟩

theorem stripAfter_backslash (run : Nat) (rest : Text) :
    stripAfter run (.char '\\' :: rest) = stripAfter (run + 1) rest := rfl

theorem stripAfter_cons {c : CodePoint} (plain : c ≠ '\\') (run : Nat) (rest : Text) :
    stripAfter run (c :: rest) =
      backslashes (if startsTrigger (c :: rest) then run / 2 else run) ++
        c :: stripAfter 0 rest := by
  rw [stripAfter, if_neg plain]

theorem stripAfter_backslashes_append (run n : Nat) (text : Text) :
    stripAfter run (backslashes n ++ text) = stripAfter (run + n) text := by
  induction n generalizing run with
  | zero => rfl
  | succ n ih =>
      rw [backslashes_succ, List.cons_append, stripAfter_backslash, ih]
      congr 1
      omega

end Escape

open Escape

namespace History

theorem resolveAfter_backslash (entry : Text) (run : Nat) (rest : Text) :
    resolveAfter entry run (.char '\\' :: rest) = resolveAfter entry (run + 1) rest := by
  cases rest with
  | nil => rfl
  | cons d rest => rfl

theorem resolveAfter_backslashes_append (entry : Text) (run n : Nat) (text : Text) :
    resolveAfter entry run (backslashes n ++ text) = resolveAfter entry (run + n) text := by
  induction n generalizing run with
  | zero => rfl
  | succ n ih =>
      rw [backslashes_succ, List.cons_append, resolveAfter_backslash, ih]
      congr 1
      omega

theorem resolveAfter_pair {run : Nat} (unescaped : escapes run = false) (entry rest : Text) :
    resolveAfter entry run (.char '!' :: .char '!' :: rest) =
      backslashes (run / 2) ++ (entry ++ resolveAfter entry 0 rest) := by
  simp [resolveAfter, unescaped]

theorem resolveAfter_cons {c : CodePoint} {run : Nat} {rest : Text} (plain : c ≠ '\\')
    (stays : c = '!' → startsTrigger (c :: rest) = true → escapes run = true) (entry : Text) :
    resolveAfter entry run (c :: rest) =
      backslashes run ++ c :: resolveAfter entry 0 rest := by
  cases rest with
  | nil => simp [resolveAfter, plain]
  | cons d rest =>
      rw [resolveAfter, if_neg plain, if_neg]
      simp only [Bool.and_eq_true, decide_eq_true_eq, Bool.not_eq_true', not_and,
        Bool.not_eq_false]
      rintro ⟨rfl, rfl⟩
      exact stays rfl rfl

end History

namespace Reference

theorem replaceAfter_backslash (run : Nat) (rest : Text) (store : Store) :
    replaceAfter run (.char '\\' :: rest) store = replaceAfter (run + 1) rest store := by
  rw [replaceAfter, if_pos rfl]

theorem replaceAfter_backslashes_append (run n : Nat) (text : Text) (store : Store) :
    replaceAfter run (backslashes n ++ text) store = replaceAfter (run + n) text store := by
  induction n generalizing run with
  | zero => rfl
  | succ n ih =>
      rw [backslashes_succ, List.cons_append, replaceAfter_backslash, ih]
      congr 1
      omega

theorem replaceAfter_dollar {run : Nat} {rest value after : Text} {store next : Store}
    (unescaped : escapes run = false) (found : valueAt? rest store = some (value, after, next)) :
    replaceAfter run (.char '$' :: rest) store =
      prepend (backslashes (run / 2) ++ value) (replaceAfter 0 after next) := by
  rw [replaceAfter, if_neg (by decide), if_pos (by simp [unescaped])]
  split
  · next found' =>
      rw [found] at found'
      cases found'
      rfl
  · next absent =>
      rw [found] at absent
      cases absent

theorem replaceAfter_cons {c : CodePoint} {run : Nat} {rest : Text} {store : Store}
    (plain : c ≠ '\\')
    (stays : c = '$' → escapes run = true ∨ valueAt? rest store = none) :
    replaceAfter run (c :: rest) store =
      prepend (backslashes run ++ [c]) (replaceAfter 0 rest store) := by
  rw [replaceAfter, if_neg plain]
  by_cases dollar : c = '$'
  · rcases stays dollar with escaped | absent
    · rw [if_neg (by simp [escaped])]
    · split
      · split
        · next found =>
            rw [absent] at found
            cases found
        · rfl
      · rfl
  · rw [if_neg (by simp [dollar])]

end Reference

namespace Arithmetic

theorem reduceAfter_backslash (run : Nat) (rest : Text) :
    reduceAfter run (.char '\\' :: rest) = reduceAfter (run + 1) rest := by
  rw [reduceAfter, if_pos rfl]

theorem reduceAfter_backslashes_append (run n : Nat) (text : Text) :
    reduceAfter run (backslashes n ++ text) = reduceAfter (run + n) text := by
  induction n generalizing run with
  | zero => rfl
  | succ n ih =>
      rw [backslashes_succ, List.cons_append, reduceAfter_backslash, ih]
      congr 1
      omega

theorem reduceAfter_dollar {run : Nat} {rest value after : Text} (unescaped : escapes run = false)
    (found : valueAt? (reduceAfter 0 rest) = some (value, after)) :
    reduceAfter run (.char '$' :: rest) = backslashes (run / 2) ++ (value ++ after) := by
  rw [reduceAfter, if_neg (by decide)]
  simp [unescaped, found]

theorem reduceAfter_cons {c : CodePoint} {run : Nat} {rest : Text} (plain : c ≠ '\\')
    (stays : c = '$' → escapes run = true ∨ valueAt? (reduceAfter 0 rest) = none) :
    reduceAfter run (c :: rest) = backslashes run ++ c :: reduceAfter 0 rest := by
  rw [reduceAfter, if_neg plain]
  by_cases dollar : c = '$'
  · rcases stays dollar with escaped | absent
    · simp [escaped]
    · simp only [absent, ite_self]
  · simp [dollar]

/-- What the sweep makes of a character: it is the dollar of an expression that is reduced, or else
it stays. -/
theorem reduceAfter_cases {c : CodePoint} (plain : c ≠ '\\') (run : Nat) (rest : Text) :
    (c = '$' ∧ escapes run = false ∧ ∃ value after,
      valueAt? (reduceAfter 0 rest) = some (value, after) ∧
        reduceAfter run (c :: rest) = backslashes (run / 2) ++ (value ++ after)) ∨
      (c = '$' → escapes run = true ∨ valueAt? (reduceAfter 0 rest) = none) ∧
        reduceAfter run (c :: rest) = backslashes run ++ c :: reduceAfter 0 rest := by
  by_cases reduces : c = '$' ∧ escapes run = false ∧ valueAt? (reduceAfter 0 rest) ≠ none
  · obtain ⟨rfl, unescaped, present⟩ := reduces
    obtain ⟨⟨value, after⟩, found⟩ := Option.ne_none_iff_exists'.mp present
    exact Or.inl ⟨rfl, unescaped, value, after, found, reduceAfter_dollar unescaped found⟩
  · have stays : c = '$' → escapes run = true ∨ valueAt? (reduceAfter 0 rest) = none := by
      intro dollar
      by_cases escaped : escapes run = true
      · exact Or.inl escaped
      · refine Or.inr (Classical.not_not.mp fun present => ?_)
        exact reduces ⟨dollar, Bool.eq_false_iff.mpr escaped, present⟩
    exact Or.inr ⟨stays, reduceAfter_cons plain stays⟩

end Arithmetic

namespace Brace

theorem piecesAfter_backslash (run : Nat) (afterDollar : Bool) (rest : Text) :
    piecesAfter run afterDollar (.char '\\' :: rest) = piecesAfter (run + 1) false rest := by
  rw [piecesAfter, if_pos rfl]

theorem piecesAfter_backslashes_append (run n : Nat) (text : Text) :
    piecesAfter run false (backslashes n ++ text) = piecesAfter (run + n) false text := by
  induction n generalizing run with
  | zero => rfl
  | succ n ih =>
      rw [backslashes_succ, List.cons_append, piecesAfter_backslash, ih]
      congr 1
      omega

theorem piecesAfter_cons {c : CodePoint} {run : Nat} {afterDollar : Bool} {rest : Text}
    (plain : c ≠ '\\') (stays : c = '{' → escapes run = true ∨ afterDollar = true) :
    piecesAfter run afterDollar (c :: rest) =
      .literal (backslashes run ++ [c]) ::
        piecesAfter 0 (c = '$' && !escapes run) rest := by
  rw [piecesAfter, if_neg plain, if_neg]
  simp only [Bool.and_eq_true, decide_eq_true_eq, Bool.not_eq_true', not_and, Bool.not_eq_false]
  rintro ⟨rfl, unescaped⟩
  rcases stays rfl with escaped | parameter
  · rw [escaped] at unescaped
    cases unescaped
  · exact parameter

theorem piecesAfter_opening {c : CodePoint} {run : Nat} {afterDollar : Bool} (plain : c ≠ '\\')
    (opening : (decide (c = '{') && !escapes run && !afterDollar) = true) (rest : Text) :
    piecesAfter run afterDollar (c :: rest) =
      match takeGroup? 0 rest with
      | some (content, after) => .group run content :: piecesAfter 0 false after
      | none =>
          if .char '}' ∈ rest then
            .literal (backslashes run ++ [c]) :: piecesAfter 0 false rest
          else [.unclosed run rest] := by
  rw [piecesAfter, if_neg plain, if_pos opening]
  split
  · next found => rw [found]
  · next absent => rw [absent]

theorem piecesAfter_brace {run : Nat} (unescaped : escapes run = false) (rest : Text) :
    piecesAfter run false (.char '{' :: rest) =
      match takeGroup? 0 rest with
      | some (content, after) => .group run content :: piecesAfter 0 false after
      | none =>
          if .char '}' ∈ rest then
            .literal (backslashes run ++ [.char '{']) :: piecesAfter 0 false rest
          else [.unclosed run rest] :=
  piecesAfter_opening (by decide) (by simp [unescaped]) rest

end Brace

end LineShell
