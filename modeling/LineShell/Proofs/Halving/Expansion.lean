import LineShell.Proofs.Halving.Brace
import LineShell.Proofs.Halving.Pass
import LineShell.Proofs.Lookup

/-!
What the expansion of a line makes of an even backslash run in front of the trigger that the line
begins with. The pass that expands the trigger halves the run, or else the removal of escapes does;
the texts that stand behind the run from then on decide whether it is halved again.
-/

namespace LineShell

open Escape

def atDollar {α : Type} (value? : Text → Option α) : Text → Bool
  | '$' :: rest => (value? rest).isSome
  | _ => false

theorem eq_of_atDollar {α : Type} {value? : Text → Option α} {text : Text}
    (expanded : atDollar value? text = true) :
    ∃ rest value, text = .char '$' :: rest ∧ value? rest = some value := by
  unfold atDollar at expanded
  split at expanded
  · next rest =>
      obtain ⟨value, found⟩ := Option.isSome_iff_exists.mp expanded
      exact ⟨rest, value, rfl, found⟩
  · cases expanded

theorem startsTrigger_of_atDollar {α : Type} {value? : Text → Option α} {text : Text}
    (expanded : atDollar value? text = true) : startsTrigger text = true := by
  obtain ⟨rest, value, rfl, -⟩ := eq_of_atDollar expanded
  rfl

theorem escapes_or_eq_none_of_atDollar {α : Type} (value? : Text → Option α) {n : Nat}
    {c : CodePoint}
    {rest : Text} (stays : atDollar value? (c :: rest) = true → escapes n = true)
    (dollar : c = '$') : escapes n = true ∨ value? rest = none := by
  subst dollar
  cases found : value? rest with
  | none => exact Or.inr rfl
  | some value => exact Or.inl (stays (Option.isSome_iff_exists.mpr ⟨value, found⟩))

def History.pass (history : List Text) : Pass where
  run := History.resolve history
  expands
    | '!' :: '!' :: _ => true
    | _ => false

def Reference.pass (store : Store) : Pass where
  run text := (Reference.replace text store).1
  expands := atDollar fun rest => Reference.valueAt? rest store

def Arithmetic.pass : Pass where
  run := Arithmetic.reduce
  expands := atDollar fun rest => Arithmetic.valueAt? (Arithmetic.reduce rest)

theorem History.eq_of_pass_expands {history : List Text} {text : Text}
    (expanded : (History.pass history).expands text = true) :
    ∃ rest, text = .char '!' :: .char '!' :: rest := by
  unfold pass at expanded
  dsimp only at expanded
  split at expanded
  · next rest => exact ⟨rest, rfl⟩
  · cases expanded

theorem History.pass_lawful (history : List Text) : (History.pass history).Lawful where
  trigger := by
    intro text expanded
    obtain ⟨rest, rfl⟩ := eq_of_pass_expands expanded
    rfl
  ends n := by
    have read := resolveAfter_backslashes_append (last history) 0 n []
    rw [List.append_nil, Nat.zero_add] at read
    exact read
  keeps := by
    intro n c rest plain stays
    change resolve history (backslashes n ++ c :: rest) = backslashes n ++ c :: resolve history rest
    rw [resolve, resolveAfter_backslashes_append, Nat.zero_add, resolveAfter_cons plain]
    · rfl
    · rintro rfl leads
      rcases eq_of_startsTrigger leads with ⟨_, same⟩ | ⟨_, same⟩ | ⟨others, same⟩
      · cases same
      · cases same
      · cases same
        exact stays rfl
  halves := by
    intro n text expanded
    obtain ⟨rest, rfl⟩ := eq_of_pass_expands expanded
    change resolve history _ = _ ++ resolve history _
    rw [resolve, resolve, resolveAfter_backslashes_append, Nat.zero_add,
      resolveAfter_pair (escapes_two_mul n), resolveAfter_pair rfl]
    simp
  mark unexpanded := nomatch unexpanded

theorem Reference.pass_lawful (store : Store) : (Reference.pass store).Lawful where
  trigger := startsTrigger_of_atDollar
  ends n := by
    have read := replaceAfter_backslashes_append 0 n [] store
    rw [List.append_nil, Nat.zero_add, replaceAfter] at read
    exact congrArg Prod.fst read
  keeps := by
    intro n c rest plain stays
    change (replace (backslashes n ++ c :: rest) store).1 =
      backslashes n ++ c :: (replace rest store).1
    rw [replace, replaceAfter_backslashes_append, Nat.zero_add,
      replaceAfter_cons plain (escapes_or_eq_none_of_atDollar (valueAt? · store) stays)]
    simp [prepend, replace]
  halves := by
    intro n text expanded
    obtain ⟨rest, ⟨value, after, next⟩, rfl, found⟩ := eq_of_atDollar expanded
    change (replace _ store).1 = _ ++ (replace _ store).1
    rw [replace, replace, replaceAfter_backslashes_append, Nat.zero_add,
      replaceAfter_dollar (escapes_two_mul n) found, replaceAfter_dollar rfl found]
    simp [prepend]
  mark _ := rfl

theorem Arithmetic.pass_lawful : Arithmetic.pass.Lawful where
  trigger := startsTrigger_of_atDollar
  ends n := by
    have read := reduceAfter_backslashes_append 0 n []
    rw [List.append_nil, Nat.zero_add, reduceAfter] at read
    exact read
  keeps := by
    intro n c rest plain stays
    change reduce (backslashes n ++ c :: rest) = backslashes n ++ c :: reduce rest
    rw [reduce, reduceAfter_backslashes_append, Nat.zero_add, reduceAfter_cons plain
      (escapes_or_eq_none_of_atDollar (fun rest => valueAt? (reduce rest)) stays)]
    rfl
  halves := by
    intro n text expanded
    obtain ⟨rest, ⟨value, after⟩, rfl, found⟩ := eq_of_atDollar expanded
    change reduce _ = _ ++ reduce _
    rw [reduce, reduce, reduceAfter_backslashes_append, Nat.zero_add,
      reduceAfter_dollar (escapes_two_mul n) found, reduceAfter_dollar rfl found]
    simp
  mark _ := rfl

/-- What a text does with the variables: its lookups, and what it leaves. -/
def Reference.trace (run : Nat) (text : Text) (store : Store) : List (Text × Store) × Store :=
  (lookupsAfter run text store, (replaceAfter run text store).2)

theorem Reference.trace_congr {c : CodePoint} (plain : c ≠ '\\') {m n : Nat}
    (same : escapes m = escapes n) (rest : Text) (store : Store) :
    trace m (c :: rest) store = trace n (c :: rest) store := by
  unfold trace
  by_cases idle : c = '$' → escapes n = true
  · have idle' : c = '$' → escapes m = true := fun dollar => same.trans (idle dollar)
    rw [lookupsAfter_cons plain fun dollar => Or.inl (idle dollar),
      lookupsAfter_cons plain fun dollar => Or.inl (idle' dollar),
      replaceAfter_cons plain fun dollar => Or.inl (idle dollar),
      replaceAfter_cons plain fun dollar => Or.inl (idle' dollar)]
    rfl
  · obtain ⟨rfl, unescaped⟩ := Classical.not_imp.mp idle
    rw [Bool.not_eq_true] at unescaped
    have unescaped' := same.trans unescaped
    cases found : valueAt? rest store with
    | none =>
        rw [lookupsAfter_dollar_of_none unescaped found,
          lookupsAfter_dollar_of_none unescaped' found,
          replaceAfter_cons plain fun _ => Or.inr found,
          replaceAfter_cons plain fun _ => Or.inr found]
        rfl
    | some value =>
        rw [lookupsAfter_dollar unescaped found, lookupsAfter_dollar unescaped' found,
          replaceAfter_dollar unescaped found, replaceAfter_dollar unescaped' found]
        rfl

theorem Reference.trace_backslashes_append (run n : Nat) (text : Text) (store : Store) :
    trace run (backslashes n ++ text) store = trace (run + n) text store := by
  rw [trace, lookupsAfter_backslashes_append, replaceAfter_backslashes_append]
  rfl

theorem Reference.trace_of_startsTrigger {text : Text} (leads : startsTrigger text = true)
    (n : Nat) (store : Store) :
    trace 0 (backslashes (2 * n) ++ text) store = trace 0 text store := by
  rw [trace_backslashes_append, Nat.zero_add]
  cases text with
  | nil => cases leads
  | cons c rest =>
      have plain : c ≠ '\\' := by simpa using head?_of_startsTrigger leads
      exact trace_congr plain (escapes_two_mul n) rest store

theorem Reference.trace_of_not_triggerInFront {text : Text} (quiet : ¬TriggerInFront text)
    (n : Nat) (store : Store) :
    trace 0 (backslashes n ++ text) store = trace 0 text store := by
  obtain ⟨m, rest, rfl, plain⟩ := exists_eq_backslashes_append text
  rw [triggerInFront_append plain] at quiet
  rw [trace_backslashes_append, trace_backslashes_append, trace_backslashes_append]
  cases rest with
  | nil => rw [trace, trace, lookupsAfter_nil, lookupsAfter_nil, replaceAfter, replaceAfter]
  | cons c rest =>
      have other : c ≠ '\\' := by simpa using plain
      have noDollar : c ≠ '$' := by
        rintro rfl
        exact quiet rfl
      unfold trace
      rw [lookupsAfter_cons other fun dollar => absurd dollar noDollar,
        lookupsAfter_cons other fun dollar => absurd dollar noDollar,
        replaceAfter_cons other fun dollar => absurd dollar noDollar,
        replaceAfter_cons other fun dollar => absurd dollar noDollar]
      rfl

namespace Expansion

def passes (history : List Text) (store : Store) : List Pass :=
  [History.pass history, Reference.pass store, Arithmetic.pass]

theorem passes_lawful (history : List Text) (store : Store) :
    ∀ pass ∈ passes history store, pass.Lawful := by
  intro pass member
  simp only [passes, List.mem_cons, List.not_mem_nil, or_false] at member
  rcases member with rfl | rfl | rfl
  · exact History.pass_lawful history
  · exact Reference.pass_lawful store
  · exact Arithmetic.pass_lawful

/-- The texts that a line becomes from the expansion of the trigger at the front on. If a group was
there, braces have expanded it and all texts of the line are among them. -/
def exposed (history : List Text) (opened : Bool) (store : Store) (line : Text) : List Text :=
  if opened then Pass.stages (passes history store) line
  else Pass.exposed (passes history store) line

theorem fst_expandOne_iff (history : List Text) {opened : Bool} (store : Store) {line : Text}
    (leads : opened = false → startsTrigger line = true) :
    (∀ n, (expandOne history store (backslashes (Brace.runLeft opened n) ++ line)).1 =
      backslashes n ++ (expandOne history store line).1) ↔
      ∀ text ∈ exposed history opened store line, ¬TriggerInFront text := by
  cases opened with
  | true => exact Pass.finish_iff_stages (passes_lawful history store) line
  | false => exact Pass.finish_iff_exposed (passes_lawful history store) (leads rfl)

theorem trace_resolve (history : List Text) {opened : Bool} (store : Store) {line : Text}
    (leads : opened = false → startsTrigger line = true)
    (quiet : ∀ text ∈ exposed history opened store line, ¬TriggerInFront text) (n : Nat) :
    Reference.trace 0
      (History.resolve history (backslashes (Brace.runLeft opened n) ++ line)) store =
      Reference.trace 0 (History.resolve history line) store := by
  have lawful := History.pass_lawful history
  change Reference.trace 0 ((History.pass history).run _) store =
    Reference.trace 0 ((History.pass history).run line) store
  cases opened with
  | true =>
      have quietLine := quiet line List.mem_cons_self
      have quietNext := quiet _ (List.mem_cons_of_mem _ List.mem_cons_self)
      rw [Brace.runLeft, if_pos rfl, lawful.run_of_not_triggerInFront quietLine]
      exact Reference.trace_of_not_triggerInFront quietNext n store
  | false =>
      rw [Brace.runLeft, if_neg (by decide)]
      cases expanded : (History.pass history).expands line with
      | true =>
          rw [lawful.halves n expanded]
          refine Reference.trace_of_not_triggerInFront (quiet _ ?_) n store
          rw [exposed, if_neg (by decide), passes, Pass.exposed, if_pos expanded]
          exact List.mem_cons_self
      | false =>
          rw [lawful.run_of_not_expands (leads rfl) expanded]
          exact Reference.trace_of_startsTrigger
            (lawful.startsTrigger_run (leads rfl) expanded) n store

theorem expandOne_iff (history : List Text) {opened : Bool} (store : Store) {line : Text}
    (leads : opened = false → startsTrigger line = true) :
    (∀ n, expandOne history store (backslashes (Brace.runLeft opened n) ++ line) =
      (backslashes n ++ (expandOne history store line).1, (expandOne history store line).2)) ↔
      ∀ text ∈ exposed history opened store line, ¬TriggerInFront text := by
  constructor
  · intro carried
    exact (fst_expandOne_iff history store leads).mp fun n => congrArg Prod.fst (carried n)
  · intro quiet n
    have left := congrArg Prod.snd (trace_resolve history store leads quiet n)
    exact Prod.ext ((fst_expandOne_iff history store leads).mpr quiet n) left

/-- The texts that some lines become from the expansion of the trigger at the front on. -/
def exposedEach (history : List Text) (opened : Bool) (store : Store) : List Text → List Text
  | [] => []
  | line :: rest =>
      exposed history opened store line ++
        exposedEach history opened (expandOne history store line).2 rest

theorem expandEach_iff (history : List Text) {opened : Bool} (store : Store) {lines : List Text}
    (leads : opened = false → ∀ line ∈ lines, startsTrigger line = true) :
    (∀ n, expandEach history store (lines.map (backslashes (Brace.runLeft opened n) ++ ·)) =
      ((expandEach history store lines).1.map (backslashes n ++ ·),
        (expandEach history store lines).2)) ↔
      ∀ text ∈ exposedEach history opened store lines, ¬TriggerInFront text := by
  induction lines generalizing store with
  | nil =>
      constructor
      · intro _ text member
        cases member
      · exact fun _ _ => rfl
  | cons line rest ih =>
      have leadsLine : opened = false → startsTrigger line = true :=
        fun unopened => leads unopened line List.mem_cons_self
      have leadsRest : opened = false → ∀ other ∈ rest, startsTrigger other = true :=
        fun unopened other member => leads unopened other (List.mem_cons_of_mem _ member)
      rw [exposedEach, List.forall_mem_append, ← ih _ leadsRest,
        ← expandOne_iff history store leadsLine]
      constructor
      · intro carried
        have heads : ∀ n,
            (expandOne history store (backslashes (Brace.runLeft opened n) ++ line)).1 =
              backslashes n ++ (expandOne history store line).1 :=
          fun n => (List.cons.inj (congrArg Prod.fst (carried n))).1
        have carriedLine := (expandOne_iff history store leadsLine).mpr
          ((fst_expandOne_iff history store leadsLine).mp heads)
        refine ⟨carriedLine, fun n => ?_⟩
        have whole := carried n
        rw [List.map_cons, expandEach, carriedLine n] at whole
        obtain ⟨texts, store⟩ := Prod.mk.inj whole
        exact Prod.ext (List.cons.inj texts).2 store
      · rintro ⟨carriedLine, carriedRest⟩ n
        rw [List.map_cons, expandEach, carriedLine n, carriedRest n]
        rfl

theorem refused?_map_backslashes_append (history : List Text) {opened : Bool} (store : Store)
    {lines : List Text} (leads : opened = false → ∀ line ∈ lines, startsTrigger line = true)
    (quiet : ∀ text ∈ exposedEach history opened store lines, ¬TriggerInFront text) (n : Nat) :
    refused? history store (lines.map (backslashes (Brace.runLeft opened n) ++ ·)) =
      refused? history store lines := by
  induction lines generalizing store with
  | nil => rfl
  | cons line rest ih =>
      rw [exposedEach, List.forall_mem_append] at quiet
      have leadsLine : opened = false → startsTrigger line = true :=
        fun unopened => leads unopened line List.mem_cons_self
      have leadsRest : opened = false → ∀ other ∈ rest, startsTrigger other = true :=
        fun unopened other member => leads unopened other (List.mem_cons_of_mem _ member)
      obtain ⟨lookups, left⟩ := Prod.mk.inj (trace_resolve history store leadsLine quiet.1 n)
      have leaves : (expandOne history store (backslashes (Brace.runLeft opened n) ++ line)).2 =
          (expandOne history store line).2 := left
      rw [List.map_cons, refused?_cons, refused?_cons, Reference.lookups, lookups, leaves,
        ih _ leadsRest quiet.2]
      rfl

/-- The texts that the lines of an expansion become from that of the trigger at their front on. -/
def exposedIn (state : State) (line : Text) : List Text :=
  match Brace.expand line with
  | .ok lines => exposedEach state.history (Brace.opens line) state.store lines
  | .error _ => []

/-- An even run in front of a line that begins with a trigger is halved exactly once, whatever its
length, if no text puts another trigger behind it from the expansion of that one on; and only if,
unless the expansion ends at a name that cannot be looked up. -/
theorem expand_backslashes_append_iff (state : State) {line : Text}
    (leads : startsTrigger line = true) :
    let halved := ∀ n, expand state (backslashes (2 * n) ++ line) =
      (expand state line).map fun expanded =>
        (expanded.1.map (backslashes n ++ ·), expanded.2)
    let quiet := ∀ text ∈ exposedIn state line, ¬TriggerInFront text
    (quiet → halved) ∧
      ((∀ name left, expand state line ≠ .error ⟨.unencodableName name, left⟩) →
        (halved ↔ quiet)) := by
  intro halved quiet
  have behind := Brace.expand_backslashes_append leads
  have carries : quiet → halved := by
    intro still n
    rw [expand, expand, behind]
    cases fanned : Brace.expand line with
    | error refusal => rfl
    | ok lines =>
        have leadsAll := fun unopened => Brace.startsTrigger_of_mem_expand leads unopened fanned
        have stillAll : ∀ text ∈ exposedEach state.history (Brace.opens line) state.store lines,
            ¬TriggerInFront text := by
          simpa only [quiet, exposedIn, fanned] using still
        dsimp only [Except.map]
        rw [expandAll, expandAll,
          refused?_map_backslashes_append state.history state.store leadsAll stillAll n]
        cases refused? state.history state.store lines with
        | some asked => rfl
        | none =>
            dsimp only
            rw [(expandEach_iff state.history state.store leadsAll).mpr stillAll n]
  refine ⟨carries, fun unrefused => ⟨fun carried => ?_, carries⟩⟩
  change ∀ text ∈ exposedIn state line, ¬TriggerInFront text
  unfold exposedIn
  cases fanned : Brace.expand line with
  | error refusal =>
      intro text member
      cases member
  | ok lines =>
      dsimp only
      rw [← expandEach_iff state.history state.store
        fun unopened => Brace.startsTrigger_of_mem_expand leads unopened fanned]
      intro n
      have granted : refused? state.history state.store lines = none := by
        cases refused : refused? state.history state.store lines with
        | none => rfl
        | some asked =>
            refine absurd ?_ (unrefused asked.1 { state with store := asked.2 })
            rw [expand, fanned]
            exact expandAll_of_refused refused
      have whole := carried n
      rw [expand, expand, behind, fanned] at whole
      dsimp only [Except.map] at whole
      rw [expandAll_of_granted granted] at whole
      exact (expandAll_eq_ok_iff.mp whole).2.1

def stateWith (name value : Text) : State :=
  State.start ⟨Bindings.ofList [(name, value)], Bindings.empty⟩ [] ['/'] 0 Symbols.standard

/-- A reference to a plain value, and a group behind it. -/
theorem expand_backslashes_append_before_value :
    let line := "$a-\x7bx,y\x7d".text
    startsTrigger line = true ∧
      ∀ n, expand (stateWith ['a'] ['v']) (backslashes (2 * n) ++ line) =
        .ok ([backslashes n ++ "v-x".text, backslashes n ++ "v-y".text],
          stateWith ['a'] ['v']) := by
  intro line
  have leads : startsTrigger line = true := by decide
  refine ⟨leads, fun n => ?_⟩
  have whole : expand (stateWith ['a'] ['v']) line =
      .ok (["v-x".text, "v-y".text], stateWith ['a'] ['v']) := by decide +kernel
  have halved := (expand_backslashes_append_iff (stateWith ['a'] ['v']) leads).1
    (by decide +kernel) n
  rw [halved, whole]
  rfl

/-- A group whose first item is a reference: the backslash that the group leaves escapes the dollar.
-/
theorem reference_in_group_not_halved_once :
    ¬∀ (state : State) (n : Nat) (line : Text), startsTrigger line = true →
      expand state (backslashes (2 * n) ++ line) =
        (expand state line).map fun expanded =>
          (expanded.1.map (backslashes n ++ ·), expanded.2) := by
  intro claimed
  have same := claimed (stateWith ['a'] ['v']) 1 ['{', '$', 'a', ',', 'b', '}'] rfl
  exact absurd same (by decide +kernel)

end Expansion

end LineShell
