import LineShell.Expansion
import LineShell.Proofs.BackslashRun

/-!
The lookups of an expansion. A name without a binding of the shell is looked up in the process
environment, which refuses names that it cannot encode; the first such name ends the expansion of
the whole line. A backslash run matters to the lookups only by what it escapes.
-/

namespace LineShell

open Escape

namespace Text

/-- Holds of a text without surrogates, as every text is that is typed. -/
def Scalar (text : Text) : Prop :=
  ∀ offset, .surrogate offset ∉ text

theorem exists_surrogate_of_bytes? {name : Text} (unencodable : bytes? name = none) :
    ∃ offset, .surrogate offset ∈ name ∧ (CodePoint.surrogate offset).bytes? = none := by
  induction name with
  | nil => cases unencodable
  | cons c rest ih =>
      cases here : c.bytes? with
      | none =>
          cases c with
          | char value => cases here
          | surrogate offset => exact ⟨offset, List.mem_cons_self, here⟩
      | some first =>
          cases others : bytes? rest with
          | none =>
              obtain ⟨offset, inside, absent⟩ := ih others
              exact ⟨offset, List.mem_cons_of_mem c inside, absent⟩
          | some bytes =>
              rw [bytes?, here, others] at unencodable
              cases unencodable

end Text

namespace Store

theorem resolve_of_refuses {store : Store} {name : Text} (refused : store.refuses name = true) :
    store.resolve name = none := by
  obtain ⟨unbound, unencodable⟩ := Bool.and_eq_true_iff.mp refused
  rw [Option.isNone_iff_eq_none] at unbound unencodable
  rw [resolve, unbound]
  refine Option.map_eq_none_iff.mpr (List.find?_eq_none.mpr fun entry _ => ?_)
  rw [Text.sameBytes, unencodable]
  simp

theorem bytes?_of_refuses {store : Store} {name : Text} (refused : store.refuses name = true) :
    Text.bytes? name = none :=
  Option.isNone_iff_eq_none.mp (Bool.and_eq_true_iff.mp refused).2

theorem refuses_of_resolve {store : Store} {name value : Text}
    (resolved : store.resolve name = some value) : store.refuses name = false := by
  rw [← Bool.not_eq_true]
  intro refused
  rw [resolve_of_refuses refused] at resolved
  cases resolved

end Store

namespace Reference

theorem mem_askedAt_iff {text : Text} {store : Store} {asked : Text × Store} :
    asked ∈ askedAt text store ↔
      ∃ reference after, take? text = some (reference, after) ∧
        asked = (reference.name, store) := by
  rw [askedAt, Option.mem_toList, Option.map_eq_some_iff]
  constructor
  · rintro ⟨⟨reference, after⟩, taken, rfl⟩
    exact ⟨reference, after, taken, rfl⟩
  · rintro ⟨reference, after, taken, rfl⟩
    exact ⟨(reference, after), taken, rfl⟩

theorem eq_of_mem_askedAt {text : Text} {store : Store} {asked : Text × Store}
    (member : asked ∈ askedAt text store) : asked.2 = store := by
  obtain ⟨reference, after, -, rfl⟩ := mem_askedAt_iff.mp member
  rfl

theorem exists_of_valueAt? {text value after : Text} {store next : Store}
    (found : valueAt? text store = some (value, after, next)) :
    ∃ reference, take? text = some (reference, after) ∧
      reference.follow? store = some (value, next) := by
  rw [valueAt?] at found
  cases taken : take? text with
  | none =>
      rw [taken] at found
      cases found
  | some reference =>
      rw [taken] at found
      obtain ⟨⟨_, _⟩, followed, same⟩ := Option.map_eq_some_iff.mp found
      cases same
      exact ⟨reference.1, rfl, followed⟩

theorem lookupsAfter_nil (run : Nat) (store : Store) : lookupsAfter run [] store = [] := by
  rw [lookupsAfter]

theorem lookupsAfter_backslash (run : Nat) (rest : Text) (store : Store) :
    lookupsAfter run (.char '\\' :: rest) store = lookupsAfter (run + 1) rest store := by
  rw [lookupsAfter, if_pos rfl]

theorem lookupsAfter_backslashes_append (run n : Nat) (text : Text) (store : Store) :
    lookupsAfter run (backslashes n ++ text) store = lookupsAfter (run + n) text store := by
  induction n generalizing run with
  | zero => rfl
  | succ n ih =>
      rw [backslashes_succ, List.cons_append, lookupsAfter_backslash, ih]
      congr 1
      omega

theorem lookupsAfter_dollar {run : Nat} {rest value after : Text} {store next : Store}
    (unescaped : escapes run = false) (found : valueAt? rest store = some (value, after, next)) :
    lookupsAfter run (.char '$' :: rest) store =
      askedAt rest store ++ lookupsAfter 0 after next := by
  rw [lookupsAfter, if_neg (by decide), if_pos (by simp [unescaped])]
  split
  · next found' =>
      rw [found] at found'
      cases found'
      rfl
  · next absent =>
      rw [found] at absent
      cases absent

theorem lookupsAfter_dollar_of_none {run : Nat} {rest : Text} {store : Store}
    (unescaped : escapes run = false) (absent : valueAt? rest store = none) :
    lookupsAfter run (.char '$' :: rest) store =
      askedAt rest store ++ lookupsAfter 0 rest store := by
  rw [lookupsAfter, if_neg (by decide), if_pos (by simp [unescaped])]
  split
  · next found =>
      rw [absent] at found
      cases found
  · rfl

theorem lookupsAfter_cons {c : CodePoint} {run : Nat} {rest : Text} (plain : c ≠ '\\')
    (idle : c = '$' → escapes run = true ∨ take? rest = none) (store : Store) :
    lookupsAfter run (c :: rest) store = lookupsAfter 0 rest store := by
  by_cases opens : c = '$' ∧ escapes run = false
  · obtain ⟨rfl, unescaped⟩ := opens
    have absent : take? rest = none := (idle rfl).resolve_left (by simp [unescaped])
    have noValue : valueAt? rest store = none := by rw [valueAt?, absent]
    rw [lookupsAfter_dollar_of_none unescaped noValue, askedAt, absent]
    rfl
  · rw [lookupsAfter, if_neg plain, if_neg]
    simpa using opens

theorem substitute_eq_error {text : Text} {store : Store} {asked : Text × Store}
    (refused : substitute text store = .error asked) :
    asked ∈ lookups text store ∧ asked.2.refuses asked.1 = true := by
  unfold substitute at refused
  split at refused
  · next found =>
      cases refused
      obtain ⟨refuses, before, after, split, -⟩ := List.find?_eq_some_iff_append.mp found
      exact ⟨split ▸ List.mem_append_right before List.mem_cons_self, refuses⟩
  · cases refused

theorem substitute_of_granted {text : Text} {store : Store}
    (granted : ∀ asked ∈ lookups text store, asked.2.refuses asked.1 = false) :
    substitute text store = .ok (replace text store) := by
  have noneRefused : ((lookups text store).find? fun asked => asked.2.refuses asked.1) = none := by
    rw [List.find?_eq_none]
    intro asked member
    rw [granted asked member]
    decide
  rw [substitute, noneRefused]

end Reference

namespace Expansion

theorem expandAll_of_granted {state : State} {lines : List Text}
    (granted : refused? state.history state.store lines = none) :
    expandAll state lines =
      .ok ((expandEach state.history state.store lines).1,
        { state with store := (expandEach state.history state.store lines).2 }) := by
  rw [expandAll, granted]

theorem expandAll_of_refused {state : State} {lines : List Text} {name : Text} {store : Store}
    (refused : refused? state.history state.store lines = some (name, store)) :
    expandAll state lines = .error ⟨.unencodableName name, { state with store }⟩ := by
  rw [expandAll, refused]

theorem expandAll_eq_ok_iff {state next : State} {lines texts : List Text} :
    expandAll state lines = .ok (texts, next) ↔
      refused? state.history state.store lines = none ∧
        expandEach state.history state.store lines = (texts, next.store) ∧
        next = { state with store := next.store } := by
  cases refused : refused? state.history state.store lines with
  | some asked => simp [expandAll_of_refused refused]
  | none =>
      rw [expandAll_of_granted refused]
      constructor
      · rintro ⟨⟩
        exact ⟨rfl, rfl, rfl⟩
      · rintro ⟨-, expanded, framed⟩
        rw [expanded, ← framed]

/-- A line is expanded if its braces are and all its lookups are granted. -/
theorem expand_eq_ok_iff {state next : State} {line : Text} {texts : List Text} :
    expand state line = .ok (texts, next) ↔
      ∃ lines, Brace.expand line = .ok lines ∧
        refused? state.history state.store lines = none ∧
        expandEach state.history state.store lines = (texts, next.store) ∧
        next = { state with store := next.store } := by
  rw [expand]
  cases fanned : Brace.expand line with
  | error refusal => simp
  | ok lines => simp [expandAll_eq_ok_iff]

theorem refused?_cons (history : List Text) (store : Store) (line : Text) (rest : List Text) :
    refused? history store (line :: rest) =
      ((Reference.lookups (History.resolve history line) store).find?
        fun asked => asked.2.refuses asked.1).or
        (refused? history (expandOne history store line).2 rest) := by
  rw [refused?, lookupsEach, List.find?_append]
  rfl

end Expansion

end LineShell
