import LineShell.Proofs.Lookup

/-!
What becomes of the variables. Reading behind a write is decided by the name alone, and the
expansion of a line writes only defaults of names without a value: every binding that the shell has
before the line is there behind it, with its value.
-/

namespace LineShell

open Escape

namespace Bindings

theorem lookup_cons_eq (first value other : Text) (rest : List (Text × Text)) :
    ((first, value) :: rest).lookup other =
      if other = first then some value else rest.lookup other := by
  rw [List.lookup_cons]
  by_cases same : other = first
  · rw [if_pos same, same, beq_self_eq_true]
  · rw [if_neg same, beq_false_of_ne same]

theorem lookup_putEntry (name value other : Text) (entries : List (Text × Text)) :
    (putEntry name value entries).lookup other =
      if other = name then some value else entries.lookup other := by
  induction entries with
  | nil => rw [putEntry, lookup_cons_eq, List.lookup_nil]
  | cons entry rest ih =>
      obtain ⟨first, old⟩ := entry
      rw [putEntry]
      by_cases placed : first = name
      · subst placed
        rw [if_pos rfl, lookup_cons_eq, lookup_cons_eq]
        split <;> rfl
      · rw [if_neg placed, lookup_cons_eq, lookup_cons_eq, ih]
        by_cases here : other = first
        · subst here
          rw [if_pos rfl, if_neg placed, if_pos rfl]
        · rw [if_neg here, if_neg here]

theorem get?_put (bindings : Bindings) (name value other : Text) :
    (bindings.put name value).get? other =
      if other = name then some value else bindings.get? other :=
  lookup_putEntry name value other bindings.entries

end Bindings

namespace Store

theorem own_get?_assign (store : Store) (name value other : Text) :
    (store.assign name value).own.get? other =
      if other = name then some value else store.own.get? other :=
  Bindings.get?_put store.own name value other

theorem resolve_of_own {store : Store} {name value : Text}
    (bound : store.own.get? name = some value) : store.resolve name = some value := by
  rw [resolve, bound]

/-- Holds if no name that had a value got another one. -/
structure Keeps (before after : Store) : Prop where
  inherited : after.inherited = before.inherited
  own : ∀ name value, before.resolve name = some value →
    after.own.get? name = before.own.get? name

theorem Keeps.refl (store : Store) : store.Keeps store :=
  ⟨rfl, fun _ _ _ => rfl⟩

theorem Keeps.resolve {before after : Store} (kept : before.Keeps after) {name value : Text}
    (resolved : before.resolve name = some value) : after.resolve name = some value := by
  rw [← resolved, Store.resolve, Store.resolve, kept.own name value resolved, kept.inherited]

theorem Keeps.bound {before after : Store} (kept : before.Keeps after) {name value : Text}
    (bound : before.own.get? name = some value) : after.own.get? name = some value :=
  (kept.own name value (resolve_of_own bound)).trans bound

theorem Keeps.trans {first middle last : Store} (earlier : first.Keeps middle)
    (later : middle.Keeps last) : first.Keeps last :=
  ⟨later.inherited.trans earlier.inherited, fun name value resolved =>
    (later.own name value (earlier.resolve resolved)).trans (earlier.own name value resolved)⟩

theorem keeps_assign {store : Store} {name : Text} (unresolved : store.resolve name = none)
    (value : Text) : store.Keeps (store.assign name value) := by
  refine ⟨rfl, fun other old resolved => ?_⟩
  rw [own_get?_assign, if_neg]
  rintro rfl
  rw [resolved] at unresolved
  cases unresolved

/-- What a store grants, every store grants that keeps its bindings. -/
theorem Keeps.refuses {before after : Store} (kept : before.Keeps after) {name : Text}
    (granted : before.refuses name = false) : after.refuses name = false := by
  unfold Store.refuses at granted ⊢
  cases bound : before.own.get? name with
  | some value => rw [kept.bound bound, Option.isNone_some, Bool.false_and]
  | none =>
      rw [bound, Option.isNone_none, Bool.true_and] at granted
      rw [granted, Bool.and_false]

end Store

namespace Reference

theorem keeps_of_follow? {reference : Reference} {store next : Store} {value : Text}
    (followed : reference.follow? store = some (value, next)) : store.Keeps next := by
  cases reference with
  | plain name =>
      simp only [follow?, Option.map_eq_some_iff, Prod.mk.injEq] at followed
      obtain ⟨_, _, _, rfl⟩ := followed
      exact Store.Keeps.refl store
  | withDefault name default keeps =>
      rw [follow?] at followed
      cases resolved : store.resolve name with
      | some found =>
          rw [resolved] at followed
          cases followed
          exact Store.Keeps.refl store
      | none =>
          rw [resolved] at followed
          obtain ⟨-, rfl⟩ := Prod.mk.inj (Option.some.inj followed)
          cases keeps with
          | true => exact Store.keeps_assign resolved default
          | false => exact Store.Keeps.refl store

theorem keeps_of_valueAt? {text value after : Text} {store next : Store}
    (found : valueAt? text store = some (value, after, next)) : store.Keeps next := by
  obtain ⟨reference, -, followed⟩ := exists_of_valueAt? found
  exact keeps_of_follow? followed

theorem keeps_replaceAfter (run : Nat) (text : Text) (store : Store) :
    store.Keeps (replaceAfter run text store).2 := by
  fun_induction replaceAfter run text store with
  | case1 run store => exact Store.Keeps.refl store
  | case2 run store rest ih => exact ih
  | case3 run store c rest plain dollar value after next found ih =>
      exact (keeps_of_valueAt? found).trans ih
  | case4 run store c rest plain dollar absent ih => exact ih
  | case5 run store c rest plain other ih => exact ih

/-- The variables at a lookup stand between those before and those behind the replacement. -/
theorem keeps_of_mem_lookupsAfter {run : Nat} {text : Text} {store : Store} {asked : Text × Store}
    (member : asked ∈ lookupsAfter run text store) :
    store.Keeps asked.2 ∧ asked.2.Keeps (replaceAfter run text store).2 := by
  fun_induction lookupsAfter run text store with
  | case1 run store => cases member
  | case2 run store rest ih =>
      rw [replaceAfter_backslash]
      exact ih member
  | case3 run store c rest plain dollar value after next found ih =>
      obtain ⟨rfl, unescaped⟩ : c = '$' ∧ escapes run = false := by simpa using dollar
      rw [replaceAfter_dollar unescaped found]
      have kept := keeps_of_valueAt? found
      rcases List.mem_append.mp member with here | later
      · rw [eq_of_mem_askedAt here]
        exact ⟨Store.Keeps.refl store, kept.trans (keeps_replaceAfter 0 after next)⟩
      · exact ⟨kept.trans (ih later).1, (ih later).2⟩
  | case4 run store c rest plain dollar absent ih =>
      rw [replaceAfter_cons plain fun _ => Or.inr absent]
      rcases List.mem_append.mp member with here | later
      · rw [eq_of_mem_askedAt here]
        exact ⟨Store.Keeps.refl store, keeps_replaceAfter 0 rest store⟩
      · exact ih later
  | case5 run store c rest plain other ih =>
      rw [replaceAfter_cons plain fun isDollar => Or.inl (by simpa [isDollar] using other)]
      exact ih member

end Reference

namespace Expansion

theorem keeps_expandOne (history : List Text) (store : Store) (line : Text) :
    store.Keeps (expandOne history store line).2 :=
  Reference.keeps_replaceAfter 0 (History.resolve history line) store

theorem keeps_expandEach (history : List Text) (store : Store) (lines : List Text) :
    store.Keeps (expandEach history store lines).2 := by
  induction lines generalizing store with
  | nil => exact Store.Keeps.refl store
  | cons line rest ih =>
      exact (keeps_expandOne history store line).trans (ih (expandOne history store line).2)

theorem keeps_of_mem_lookupsEach {history : List Text} {store : Store} {lines : List Text}
    {asked : Text × Store} (member : asked ∈ lookupsEach history store lines) :
    store.Keeps asked.2 ∧ asked.2.Keeps (expandEach history store lines).2 := by
  induction lines generalizing store with
  | nil => cases member
  | cons line rest ih =>
      rw [expandEach]
      rcases List.mem_append.mp member with here | later
      · obtain ⟨before, behind⟩ := Reference.keeps_of_mem_lookupsAfter here
        exact ⟨before, behind.trans (keeps_expandEach history _ rest)⟩
      · exact ⟨(keeps_expandOne history store line).trans (ih later).1, (ih later).2⟩

/-- The expansion of a line changes nothing but the variables, and of these it loses none. -/
theorem frame_of_expand {state next : State} {line : Text} {texts : List Text}
    (expanded : expand state line = .ok (texts, next)) :
    next = { state with store := next.store } ∧ state.store.Keeps next.store := by
  obtain ⟨lines, -, -, all, framed⟩ := expand_eq_ok_iff.mp expanded
  have kept := keeps_expandEach state.history state.store lines
  rw [all] at kept
  exact ⟨framed, kept⟩

/-- A line is not expanded because of an overlong range or of the first name that its references
look up in vain. -/
theorem refusal_cases {state : State} {line : Text} {refusal : Refusal}
    (refused : expand state line = .error refusal) :
    (Brace.expand line = .error .tooLong ∧ refusal = ⟨.tooManyDigits, state⟩) ∨
      ∃ lines name store, Brace.expand line = .ok lines ∧
        (name, store) ∈ lookupsEach state.history state.store lines ∧
        store.refuses name = true ∧ refusal = ⟨.unencodableName name, { state with store }⟩ := by
  rw [expand] at refused
  cases fanned : Brace.expand line with
  | error overlong =>
      rw [fanned] at refused
      cases overlong
      cases refused
      exact Or.inl ⟨rfl, rfl⟩
  | ok lines =>
      rw [fanned] at refused
      dsimp only at refused
      cases found : refused? state.history state.store lines with
      | some asked =>
          rw [expandAll_of_refused found] at refused
          cases refused
          exact Or.inr ⟨lines, asked.1, asked.2, rfl, List.mem_of_find?_eq_some found,
            List.find?_some (p := fun asked : Text × Store => asked.2.refuses asked.1) found, rfl⟩
      | none =>
          rw [expandAll_of_granted found] at refused
          cases refused

theorem frame_of_refused {state : State} {line : Text} {refusal : Refusal}
    (refused : expand state line = .error refusal) :
    refusal.state = { state with store := refusal.state.store } ∧
      state.store.Keeps refusal.state.store := by
  rcases refusal_cases refused with ⟨-, rfl⟩ | ⟨lines, name, store, -, asked, -, rfl⟩
  · exact ⟨rfl, Store.Keeps.refl state.store⟩
  · exact ⟨rfl, (keeps_of_mem_lookupsEach asked).1⟩

end Expansion

end LineShell
