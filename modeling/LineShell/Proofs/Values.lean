import LineShell.Proofs.Arithmetic.NormalForm
import LineShell.Proofs.Defaults
import LineShell.Proofs.PlainLine

/-!
What becomes of a value that a reference puts into a line. References and groups in it are not read,
but the removal of escapes does not tell the line from the values in it: a backslash run of the
value that stands directly before a trigger is halved, like one that was typed there.
-/

namespace LineShell

namespace Escape

def EscapesTrigger (text : Text) : Prop :=
  ∃ before after, text = before ++ .char '\\' :: after ∧ startsTrigger after = true

theorem not_escapesTrigger_backslashes (run : Nat) : ¬EscapesTrigger (backslashes run) := by
  intro escaping
  obtain ⟨before, after, split, leads⟩ := escaping
  cases after with
  | nil => cases leads
  | cons c rest =>
      have backslash : c = '\\' := by
        apply List.eq_of_mem_replicate (n := run)
        change c ∈ backslashes run
        rw [split]
        simp
      rw [backslash] at leads
      cases leads

theorem escapesTrigger_append_cons_iff {c : CodePoint} (plain : c ≠ '\\') (run : Nat)
    (rest : Text) :
    EscapesTrigger (backslashes run ++ c :: rest) ↔
      (run ≠ 0 ∧ startsTrigger (c :: rest) = true) ∨ EscapesTrigger rest := by
  constructor
  · intro escaping
    obtain ⟨before, after, split, leads⟩ := escaping
    rcases List.append_eq_append_iff.mp split with ⟨more, rfl, same⟩ | ⟨more, whole, same⟩
    · cases more with
      | nil =>
          cases same
          exact absurd rfl plain
      | cons d more =>
          cases same
          exact Or.inr ⟨more, after, rfl, leads⟩
    · cases more with
      | nil =>
          cases same
          exact absurd rfl plain
      | cons d more =>
          obtain ⟨rfl, rfl⟩ := List.cons.inj same
          cases more with
          | nil =>
              refine Or.inl ⟨?_, leads⟩
              intro empty
              rw [empty] at whole
              exact List.append_ne_nil_of_right_ne_nil before (List.cons_ne_nil _ _) whole.symm
          | cons e more =>
              have backslash : e = '\\' := by
                apply List.eq_of_mem_replicate (n := run)
                change e ∈ backslashes run
                rw [whole]
                simp
              rw [backslash] at leads
              cases leads
  · intro either
    rcases either with ⟨occupied, leads⟩ | ⟨before, after, rfl, leads⟩
    · obtain ⟨n, rfl⟩ := Nat.exists_eq_succ_of_ne_zero occupied
      exact ⟨backslashes n, c :: rest, backslashes_succ_append n _, leads⟩
    · exact ⟨backslashes run ++ c :: before, after, by simp, leads⟩

theorem backslashes_append_cons_inj {c : CodePoint} (plain : c ≠ '\\') {m n : Nat}
    {first second : Text} :
    backslashes m ++ c :: first = backslashes n ++ c :: second ↔ m = n ∧ first = second := by
  constructor
  · intro same
    induction m generalizing n with
    | zero =>
        cases n with
        | zero => exact ⟨rfl, List.tail_eq_of_cons_eq same⟩
        | succ n => exact absurd (List.head_eq_of_cons_eq same) plain
    | succ m ih =>
        cases n with
        | zero => exact absurd (List.head_eq_of_cons_eq same).symm plain
        | succ n =>
            obtain ⟨counts, texts⟩ := ih (List.tail_eq_of_cons_eq same)
            exact ⟨congrArg (· + 1) counts, texts⟩
  · rintro ⟨rfl, rfl⟩
    rfl

theorem stripAfter_eq_iff (run : Nat) (text : Text) :
    stripAfter run text = backslashes run ++ text ↔ ¬EscapesTrigger (backslashes run ++ text) := by
  induction run, text using scan_induction with
  | nil run =>
      rw [stripAfter, List.append_nil]
      exact iff_of_true rfl (not_escapesTrigger_backslashes run)
  | backslash run rest ih =>
      rw [stripAfter_backslash, ← backslashes_succ_append]
      exact ih
  | plain run c rest plain ih =>
      rw [stripAfter_cons plain, escapesTrigger_append_cons_iff plain, not_or]
      have inRest : stripAfter 0 rest = rest ↔ ¬EscapesTrigger rest := ih
      rw [← inRest, backslashes_append_cons_inj plain]
      apply and_congr_left
      intro _
      constructor
      · intro same both
        rw [if_pos both.2] at same
        have occupied := both.1
        omega
      · intro quiet
        by_cases leads : startsTrigger (c :: rest) = true
        · have empty : run = 0 := by
            by_contra occupied
            exact quiet ⟨occupied, leads⟩
          rw [empty, Nat.zero_div, ite_self]
        · rw [if_neg leads]

/-- Removing escapes changes exactly the texts with a backslash directly before a trigger. -/
theorem strip_eq_self_iff (text : Text) : strip text = text ↔ ¬EscapesTrigger text :=
  stripAfter_eq_iff 0 text

end Escape

open Escape

theorem Text.ne_of_mem_name {name after rest : Text} {c d : CodePoint}
    (named : takeName? rest = some (name, after)) (member : c ∈ name)
    (outside : isWordCharacter d = false) : c ≠ d := by
  intro same
  have inside := isWordCharacter_of_takeName? named c member
  rw [same, outside] at inside
  cases inside

namespace Reference

theorem splitDefault?_of_notMem {body : Text} (absent : .char ':' ∉ body) :
    splitDefault? body = none := by
  cases split : splitDefault? body with
  | none => rfl
  | some found =>
      obtain ⟨name, keeps, default⟩ := found
      rw [splitDefault?_eq_some split] at absent
      exact absurd (List.mem_append_right name List.mem_cons_self) absent

theorem take?_braced {name : Text} (noBrace : .char '}' ∉ name) (noColon : .char ':' ∉ name)
    (after : Text) :
    take? (.char '{' :: (name ++ .char '}' :: after)) = some (.plain name, after) := by
  rw [take?, Text.cutAt_append noBrace]
  dsimp only
  rw [ofBody?_of_bare (splitDefault?_of_notMem noColon)]
  rfl

theorem valueAt?_braced {name value after : Text} {store : Store} (noBrace : .char '}' ∉ name)
    (noColon : .char ':' ∉ name) (bound : store.resolve name = some value) :
    valueAt? (.char '{' :: (name ++ .char '}' :: after)) store = some (value, after, store) := by
  rw [valueAt?_of_plain (take?_braced noBrace noColon after), bound]
  rfl

end Reference

namespace Expansion

variable {state : State} {name value : Text}

theorem protected_of_name (named : Text.takeName? name = some (name, [])) :
    Protected (name ++ [.char '}']) := by
  apply protected_of_plain
  intro c member
  rcases List.mem_append.mp member with inName | closing
  · exact ⟨Text.ne_of_mem_name named inName (by decide +kernel),
      Text.ne_of_mem_name named inName (by decide +kernel),
      Text.ne_of_mem_name named inName (by decide +kernel),
      Text.ne_of_mem_name named inName (by decide +kernel)⟩
  · rw [List.mem_singleton.mp closing]
    decide

theorem braces_of_reference (named : Text.takeName? name = some (name, [])) :
    Brace.expand (.char '$' :: .char '{' :: (name ++ [.char '}'])) =
      .ok [.char '$' :: .char '{' :: (name ++ [.char '}'])] := by
  apply Brace.expand_of_literal
  unfold Brace.pieces
  rw [Brace.piecesAfter_cons (by decide) (fun brace => absurd brace (by decide)),
    Brace.piecesAfter_cons (by decide) (fun _ => Or.inr (by rfl))]
  intro piece member
  rcases List.mem_cons.mp member with rfl | later
  · exact ⟨_, rfl⟩
  · rcases List.mem_cons.mp later with rfl | inName
    · exact ⟨_, rfl⟩
    · exact Brace.literal_of_protectedAfter (protected_of_name named) _ piece inName

theorem history_of_reference (named : Text.takeName? name = some (name, [])) (history : List Text) :
    History.resolve history (.char '$' :: .char '{' :: (name ++ [.char '}'])) =
      .char '$' :: .char '{' :: (name ++ [.char '}']) := by
  unfold History.resolve
  rw [History.resolveAfter_cons (by decide) (fun mark => absurd mark (by decide)),
    History.resolveAfter_cons (by decide) (fun mark => absurd mark (by decide)),
    History.resolveAfter_of_protectedAfter (protected_of_name named)]
  rfl

theorem reference_replaced (named : Text.takeName? name = some (name, [])) {store : Store}
    (bound : store.resolve name = some value) :
    Reference.replace (.char '$' :: .char '{' :: (name ++ [.char '}'])) store = (value, store) ∧
      Reference.lookups (.char '$' :: .char '{' :: (name ++ [.char '}'])) store =
        [(name, store)] := by
  have noBrace : .char '}' ∉ name :=
    fun member => Text.ne_of_mem_name named member (by decide +kernel) rfl
  have noColon : .char ':' ∉ name :=
    fun member => Text.ne_of_mem_name named member (by decide +kernel) rfl
  have found : Reference.valueAt? (.char '{' :: (name ++ [.char '}'])) store =
      some (value, [], store) :=
    Reference.valueAt?_braced noBrace noColon bound
  constructor
  · rw [Reference.replace, Reference.replaceAfter_dollar rfl found, Reference.replaceAfter]
    simp [Reference.prepend]
  · rw [Reference.lookups, Reference.lookupsAfter_dollar rfl found, Reference.lookupsAfter_nil,
      Reference.askedAt, Reference.take?_braced noBrace noColon]
    rfl

/-- A line that is a reference to a variable stands for the variable's value without the escapes in
it, so for the value itself exactly if none of its backslashes stands directly before a trigger. The
value must hold no expression to be reduced. -/
theorem expand_reference_alone (named : Text.takeName? name = some (name, []))
    (bound : state.store.resolve name = some value) (inert : ¬"$((".text <:+: value) :
    expand state (.char '$' :: .char '{' :: (name ++ [.char '}'])) = .ok ([strip value], state) ∧
      (expand state (.char '$' :: .char '{' :: (name ++ [.char '}'])) = .ok ([value], state) ↔
        ¬EscapesTrigger value) := by
  have reduced : Arithmetic.reduce value = value :=
    Arithmetic.reduce_of_normal (Arithmetic.normal_of_not_infix inert)
  have expanded : expand state (.char '$' :: .char '{' :: (name ++ [.char '}'])) =
      .ok ([strip value], state) := by
    obtain ⟨replaced, asked⟩ := reference_replaced named bound
    refine expand_eq_ok_iff.mpr ⟨_, braces_of_reference named, ?_, ?_, rfl⟩
    · rw [refused?_cons, history_of_reference named, asked]
      simp [refused?, lookupsEach, Store.refuses_of_resolve bound]
    · rw [expandEach, expandOne, history_of_reference named, replaced]
      dsimp only
      rw [reduced]
      rfl
  refine ⟨expanded, ?_⟩
  rw [expanded, ← strip_eq_self_iff]
  constructor
  · intro same
    injection same with pair
    exact List.head_eq_of_cons_eq (congrArg Prod.fst pair)
  · intro same
    rw [same]

/-- The run before the brace is halved, and the backslash before the letter stays. -/
theorem expand_reference_alone_to_escapes :
    let value : Text := ['\\', 'n', '\\', '\\', '\\', '{']
    let state := State.start ⟨Bindings.ofList [(['x'], value)], Bindings.empty⟩ [] ['/'] 0
      Symbols.standard
    Text.takeName? [.char 'x'] = some ([.char 'x'], []) ∧
      state.store.resolve [.char 'x'] = some value ∧
      ¬"$((".text <:+: value ∧
      expand state ['$', '{', 'x', '}'] = .ok ([['\\', 'n', '\\', '{']], state) := by
  intro value state
  have named : Text.takeName? [.char 'x'] = some ([.char 'x'], []) := by decide +kernel
  have bound : state.store.resolve ['x'] = some value := by decide +kernel
  have inert : ¬"$((".text <:+: value := by decide
  exact ⟨named, bound, inert, (expand_reference_alone named bound inert).1⟩

/-- A value of a backslash and a dollar loses the backslash. -/
theorem value_loses_escape :
    ¬∀ (state : State) (name value : Text), Text.takeName? name = some (name, []) →
      state.store.resolve name = some value → ¬"$((".text <:+: value →
        (expand state (.char '$' :: .char '{' :: (name ++ [.char '}']))).map Prod.fst =
          .ok [value] := by
  intro claimed
  have kept := claimed
    (State.start ⟨Bindings.ofList [(['x'], ['\\', '$'])], Bindings.empty⟩ [] ['/'] 0
      Symbols.standard)
    ['x'] ['\\', '$'] (by decide +kernel) (by decide +kernel) (by decide)
  exact absurd kept (by decide +kernel)

end Expansion

end LineShell
