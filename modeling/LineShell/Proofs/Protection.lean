import LineShell.Proofs.Lookup
import LineShell.Proofs.Brace.Choice

/-!
Texts in which every trigger is escaped. No pass of the expansion changes them, so all that happens
to such a line is the removal of the escaping backslashes.
-/

namespace LineShell

namespace Escape

def ProtectedAfter (run : Nat) : Text → Prop
  | [] => True
  | c :: rest =>
      if c = '\\' then ProtectedAfter (run + 1) rest
      else (startsTrigger (c :: rest) = true → escapes run = true) ∧ ProtectedAfter 0 rest

def Protected (text : Text) : Prop :=
  ProtectedAfter 0 text

theorem protectedAfter_backslash (run : Nat) (rest : Text) :
    ProtectedAfter run (.char '\\' :: rest) ↔ ProtectedAfter (run + 1) rest := by
  rw [ProtectedAfter, if_pos rfl]

theorem protectedAfter_cons {c : CodePoint} (plain : c ≠ '\\') (run : Nat) (rest : Text) :
    ProtectedAfter run (c :: rest) ↔
      (startsTrigger (c :: rest) = true → escapes run = true) ∧ ProtectedAfter 0 rest := by
  rw [ProtectedAfter, if_neg plain]

theorem protectedAfter_backslashes_append (run n : Nat) (text : Text) :
    ProtectedAfter run (backslashes n ++ text) ↔ ProtectedAfter (run + n) text := by
  induction n generalizing run with
  | zero => rfl
  | succ n ih =>
      rw [backslashes_succ, List.cons_append, protectedAfter_backslash, ih, Nat.add_assoc,
        Nat.add_comm 1 n]

end Escape

open Escape

theorem Brace.literal_of_protectedAfter {run : Nat} {text : Text}
    (safe : ProtectedAfter run text) (afterDollar : Bool) :
    ∀ piece ∈ Brace.piecesAfter run afterDollar text, ∃ kept, piece = .literal kept := by
  induction run, text using scan_induction generalizing afterDollar with
  | nil run => simp [Brace.piecesAfter]
  | backslash run rest ih =>
      rw [Brace.piecesAfter_backslash]
      exact ih ((protectedAfter_backslash run rest).mp safe) false
  | plain run c rest plain ih =>
      obtain ⟨escaped, safeRest⟩ := (protectedAfter_cons plain run rest).mp safe
      rw [Brace.piecesAfter_cons plain]
      · intro piece member
        rcases List.mem_cons.mp member with rfl | later
        · exact ⟨_, rfl⟩
        · exact ih safeRest _ piece later
      · rintro rfl
        exact Or.inl (escaped rfl)

theorem History.resolveAfter_of_protectedAfter {run : Nat} {text : Text}
    (safe : ProtectedAfter run text) (entry : Text) :
    History.resolveAfter entry run text = backslashes run ++ text := by
  induction run, text using scan_induction with
  | nil run => simp [History.resolveAfter]
  | backslash run rest ih =>
      rw [History.resolveAfter_backslash, ih ((protectedAfter_backslash run rest).mp safe),
        backslashes_succ_append]
  | plain run c rest plain ih =>
      obtain ⟨escaped, safeRest⟩ := (protectedAfter_cons plain run rest).mp safe
      rw [History.resolveAfter_cons plain (fun _ => escaped), ih safeRest]
      rfl

theorem Reference.replaceAfter_of_protectedAfter {run : Nat} {text : Text}
    (safe : ProtectedAfter run text) (store : Store) :
    Reference.replaceAfter run text store = (backslashes run ++ text, store) := by
  induction run, text using scan_induction with
  | nil run => simp [Reference.replaceAfter]
  | backslash run rest ih =>
      rw [Reference.replaceAfter_backslash, ih ((protectedAfter_backslash run rest).mp safe),
        backslashes_succ_append]
  | plain run c rest plain ih =>
      obtain ⟨escaped, safeRest⟩ := (protectedAfter_cons plain run rest).mp safe
      rw [Reference.replaceAfter_cons plain, ih safeRest]
      · simp [Reference.prepend]
      · rintro rfl
        exact Or.inl (escaped rfl)

theorem Reference.lookupsAfter_of_protectedAfter {run : Nat} {text : Text}
    (safe : ProtectedAfter run text) (store : Store) :
    Reference.lookupsAfter run text store = [] := by
  induction run, text using scan_induction with
  | nil run => exact Reference.lookupsAfter_nil run store
  | backslash run rest ih =>
      rw [Reference.lookupsAfter_backslash, ih ((protectedAfter_backslash run rest).mp safe)]
  | plain run c rest plain ih =>
      obtain ⟨escaped, safeRest⟩ := (protectedAfter_cons plain run rest).mp safe
      rw [Reference.lookupsAfter_cons plain, ih safeRest]
      rintro rfl
      exact Or.inl (escaped rfl)

theorem Arithmetic.reduceAfter_of_protectedAfter {run : Nat} {text : Text}
    (safe : ProtectedAfter run text) :
    Arithmetic.reduceAfter run text = backslashes run ++ text := by
  induction run, text using scan_induction with
  | nil run => simp [Arithmetic.reduceAfter]
  | backslash run rest ih =>
      rw [Arithmetic.reduceAfter_backslash, ih ((protectedAfter_backslash run rest).mp safe),
        backslashes_succ_append]
  | plain run c rest plain ih =>
      obtain ⟨escaped, safeRest⟩ := (protectedAfter_cons plain run rest).mp safe
      rw [Arithmetic.reduceAfter_cons plain, ih safeRest]
      · rfl
      · rintro rfl
        exact Or.inl (escaped rfl)

theorem Brace.expand_of_protected {text : Text} (safe : Protected text) :
    Brace.expand text = .ok [text] :=
  Brace.expand_of_literal (Brace.literal_of_protectedAfter safe false)

theorem History.resolve_of_protected {text : Text} (safe : Protected text) (history : List Text) :
    History.resolve history text = text :=
  History.resolveAfter_of_protectedAfter safe _

theorem Reference.replace_of_protected {text : Text} (safe : Protected text) (store : Store) :
    Reference.replace text store = (text, store) :=
  Reference.replaceAfter_of_protectedAfter safe store

theorem Arithmetic.reduce_of_protected {text : Text} (safe : Protected text) :
    Arithmetic.reduce text = text :=
  Arithmetic.reduceAfter_of_protectedAfter safe

theorem Expansion.expandOne_of_protected {text : Text} (safe : Protected text)
    (history : List Text) (store : Store) :
    Expansion.expandOne history store text = (strip text, store) := by
  simp only [Expansion.expandOne, History.resolve_of_protected safe,
    Reference.replace_of_protected safe, Arithmetic.reduce_of_protected safe]

/-- A line in which every trigger is escaped expands to itself without the escaping backslashes, in
every state and without a change of it. -/
theorem Expansion.expand_of_protected {text : Text} (safe : Protected text) (state : State) :
    Expansion.expand state text = .ok ([strip text], state) := by
  have granted : Expansion.refused? state.history state.store [text] = none := by
    rw [Expansion.refused?_cons, History.resolve_of_protected safe, Reference.lookups,
      Reference.lookupsAfter_of_protectedAfter safe]
    rfl
  rw [Expansion.expand, Brace.expand_of_protected safe]
  dsimp only
  rw [Expansion.expandAll_of_granted granted]
  dsimp only [Expansion.expandEach]
  rw [Expansion.expandOne_of_protected safe]

end LineShell
