import Mathlib.Data.List.Infix
import LineShell.Console.LogicalLine
import LineShell.Proofs.Text.Trimming

/-!
The physical lines of a logical line. The reader looks at the parts joined so far and not at the
physical line that it took last, but what it keeps of a line that goes on ends in a space. So each
line tells by itself whether it goes on, and the reader stops at the first one that does not.
-/

namespace LineShell.LogicalLine

/-- Holds of a physical line, at its place among those of a logical line, that goes on in the next
one: it ends in a space and the mark, or it is the mark alone behind another line. -/
def Continues (mark : CodePoint) (index : Nat) (line : Text) : Prop :=
  [.char ' ', mark] <:+ Text.trim line ∨ (0 < index ∧ Text.trim line = [mark])

instance (mark : CodePoint) (index : Nat) (line : Text) : Decidable (Continues mark index line) :=
  inferInstanceAs (Decidable (_ ∨ _))

def part (mark : CodePoint) (index : Nat) (line : Text) : Text :=
  if Continues mark index line then (Text.trim line).dropLast else Text.trim line

def promptsBehind (symbols : Symbols) (mark : CodePoint) (index : Nat) (line : Text) : List Text :=
  if Continues mark index line then [continuationPrompt symbols] else []

/-- Holds of the index of the first line that does not go on, or else of the last line. The lines
are those of a logical line from its part `start` on. -/
structure Ends (mark : CodePoint) (start : Nat) (lines : List Text) (last : Nat) : Prop where
  within : last < lines.length
  before : ∀ index line, index < last → lines[index]? = some line →
    Continues mark (start + index) line
  stops : ∀ line, lines[last]? = some line → Continues mark (start + last) line →
    last + 1 = lines.length

theorem ends_zero_iff {mark : CodePoint} {start : Nat} {line : Text} {rest : List Text} :
    Ends mark start (line :: rest) 0 ↔ (Continues mark start line → rest = []) := by
  constructor
  · intro ends continues
    have alone := ends.stops line rfl continues
    rw [List.length_cons] at alone
    exact List.eq_nil_of_length_eq_zero (Nat.succ.inj alone).symm
  · intro stops
    refine ⟨Nat.succ_pos _, fun index _ impossible => absurd impossible index.not_lt_zero, ?_⟩
    intro found same continues
    cases same
    rw [stops continues]
    rfl

theorem ends_succ_iff {mark : CodePoint} {start last : Nat} {line : Text} {rest : List Text} :
    Ends mark start (line :: rest) (last + 1) ↔
      Continues mark start line ∧ Ends mark (start + 1) rest last := by
  have shift (index : Nat) : start + 1 + index = start + (index + 1) := by omega
  constructor
  · intro ends
    refine ⟨ends.before 0 line (Nat.succ_pos last) rfl, ?_, ?_, ?_⟩
    · exact Nat.lt_of_succ_lt_succ ends.within
    · intro index found earlier present
      rw [shift]
      exact ends.before (index + 1) found (Nat.succ_lt_succ earlier) present
    · intro found present continues
      rw [shift] at continues
      exact Nat.succ.inj (ends.stops found present continues)
  · rintro ⟨continues, ends⟩
    refine ⟨Nat.succ_lt_succ ends.within, ?_, ?_⟩
    · intro index found earlier present
      cases index with
      | zero =>
          cases present
          exact continues
      | succ index =>
          rw [← shift]
          exact ends.before index found (Nat.lt_of_succ_lt_succ earlier) present
    · intro found present goesOn
      rw [← shift] at goesOn
      exact congrArg Nat.succ (ends.stops found present goesOn)

theorem exists_ends (mark : CodePoint) (start : Nat) {lines : List Text} (occupied : lines ≠ []) :
    ∃ last, Ends mark start lines last := by
  induction lines generalizing start with
  | nil => exact absurd rfl occupied
  | cons line rest ih =>
      by_cases alone : Continues mark start line → rest = []
      · exact ⟨0, ends_zero_iff.mpr alone⟩
      · obtain ⟨continues, others⟩ := Classical.not_imp.mp alone
        obtain ⟨last, ends⟩ := ih (start + 1) others
        exact ⟨last + 1, ends_succ_iff.mpr ⟨continues, ends⟩⟩

theorem pair_suffix_iff {mark : CodePoint} (visible : mark ≠ ' ') (front text : Text) :
    [.char ' ', mark] <:+ front ++ .char ' ' :: text ↔
      [.char ' ', mark] <:+ text ∨ text = [mark] := by
  have turned : text.reverse = [mark] ↔ text = [mark] := List.reverse_eq_iff
  rw [← List.reverse_prefix, ← List.reverse_prefix, ← turned, List.reverse_append]
  change [mark, .char ' '] <+: (.char ' ' :: text).reverse ++ front.reverse ↔
    [mark, .char ' '] <+: text.reverse ∨ text.reverse = [mark]
  rw [List.reverse_cons]
  cases text.reverse with
  | nil => simp [visible]
  | cons c rest =>
      cases rest with
      | nil => simp [eq_comm]
      | cons d rest => simp

/-- Holds of what is kept in front of a physical line: nothing in front of the first one, and behind
a line that goes on a text that ends in a space. -/
def Opens (index : Nat) (kept : Text) : Prop :=
  if index = 0 then kept = [] else kept.getLast? = some (.char ' ')

variable {mark : CodePoint} {index : Nat} {kept line : Text}

theorem suffix_append_iff (visible : Text.isBlank mark = false) (opens : Opens index kept)
    (line : Text) : [.char ' ', mark] <:+ kept ++ Text.trim line ↔ Continues mark index line := by
  cases index with
  | zero =>
      have nothing : kept = [] := opens
      simp [nothing, Continues]
  | succ index =>
      have spaced : kept.getLast? = some (.char ' ') := opens
      obtain ⟨front, rfl⟩ := List.getLast?_eq_some_iff.mp spaced
      have different : mark ≠ ' ' := by
        rintro rfl
        exact absurd visible (by decide)
      rw [List.append_assoc, List.singleton_append, pair_suffix_iff different]
      simp [Continues]

theorem Continues.trim_ne_nil (continues : Continues mark index line) : Text.trim line ≠ [] := by
  intro empty
  rcases continues with ending | ⟨-, alone⟩
  · rw [empty] at ending
    cases List.suffix_nil.mp ending
  · rw [empty] at alone
    cases alone

theorem Continues.opens (continues : Continues mark index line) (opens : Opens index kept) :
    Opens (index + 1) (kept ++ part mark index line) := by
  rw [part, if_pos continues]
  change (kept ++ (Text.trim line).dropLast).getLast? = some (.char ' ')
  rcases continues with ⟨front, ending⟩ | ⟨behind, alone⟩
  · have kept' : (Text.trim line).dropLast = front ++ [.char ' '] := by
      rw [← ending]
      simp
    rw [kept', ← List.append_assoc, List.getLast?_concat]
  · rw [alone, List.dropLast_singleton, List.append_nil]
    exact (if_neg (Nat.ne_of_gt behind)).mp opens

variable {symbols : Symbols}

theorem continued?_eq (single : symbols.moreLines = [mark]) (text : Text) :
    continued? symbols text = if [.char ' ', mark] <:+ text then some text.dropLast else none := by
  rw [continued?, single]
  by_cases ending : [.char ' ', mark] <:+ text
  · rw [if_pos ending, if_pos (List.isSuffixOf_iff_suffix.mpr ending), List.length_singleton,
      List.dropLast_eq_take]
  · rw [if_neg ending, if_neg (mt List.isSuffixOf_iff_suffix.mp ending)]

theorem continued?_append (single : symbols.moreLines = [mark])
    (visible : Text.isBlank mark = false) (opens : Opens index kept) (line : Text) :
    continued? symbols (kept ++ Text.trim line) =
      if Continues mark index line then some (kept ++ part mark index line) else none := by
  rw [continued?_eq single]
  by_cases continues : Continues mark index line
  · rw [if_pos ((suffix_append_iff visible opens line).mpr continues), if_pos continues, part,
      if_pos continues, List.dropLast_append_of_ne_nil continues.trim_ne_nil]
  · rw [if_neg (mt (suffix_append_iff visible opens line).mp continues), if_neg continues]

def joined (symbols : Symbols) (mark : CodePoint) (start : Nat) (kept : Text) (lines : List Text)
    (last : Nat) : Entry where
  line := some (kept ++
    ((lines.take (last + 1)).mapIdx fun index => part mark (start + index)).flatten)
  written := ((lines.take (last + 1)).mapIdx fun index =>
    promptsBehind symbols mark (start + index)).flatten
  unread := lines.drop (last + 1)

theorem joined_zero (symbols : Symbols) (mark : CodePoint) (start : Nat) (kept line : Text)
    (rest : List Text) :
    joined symbols mark start kept (line :: rest) 0 =
      ⟨some (kept ++ part mark start line), promptsBehind symbols mark start line, rest⟩ := by
  simp [joined]

theorem joined_succ (symbols : Symbols) (mark : CodePoint) (start : Nat) (kept line : Text)
    (rest : List Text) (last : Nat) :
    let entry := joined symbols mark (start + 1) (kept ++ part mark start line) rest last
    joined symbols mark start kept (line :: rest) (last + 1) =
      { entry with written := promptsBehind symbols mark start line ++ entry.written } := by
  have shifted {α : Type} (place : Nat → Text → α) :
      (fun index => place (start + (index + 1))) = fun index => place (start + 1 + index) := by
    funext index
    rw [Nat.add_comm index 1, Nat.add_assoc]
  simp only [joined, List.take_succ_cons, List.mapIdx_cons, List.flatten_cons,
    List.drop_succ_cons, Nat.add_zero, List.append_assoc]
  rw [shifted (part mark), shifted (promptsBehind symbols mark)]

theorem extend_of_ends (single : symbols.moreLines = [mark]) (visible : Text.isBlank mark = false)
    {start last : Nat} (opens : Opens start kept) {rest : List Text}
    (ends : Ends mark start (line :: rest) last) :
    extend symbols (kept ++ Text.trim line) rest =
      joined symbols mark start kept (line :: rest) last := by
  -- What carries the induction is that the text kept so far is empty or ends in a space.
  induction rest generalizing start kept line last with
  | nil =>
      obtain rfl : last = 0 := Nat.lt_one_iff.mp ends.within
      rw [extend, continued?_append single visible opens, joined_zero, part, promptsBehind]
      by_cases continues : Continues mark start line
      · simp [continues]
      · simp [continues]
  | cons next rest ih =>
      rw [extend, continued?_append single visible opens]
      cases last with
      | zero =>
          have stops : ¬Continues mark start line := fun continues =>
            absurd (ends_zero_iff.mp ends continues) (List.cons_ne_nil next rest)
          rw [if_neg stops, joined_zero, part, promptsBehind, if_neg stops, if_neg stops]
      | succ last =>
          obtain ⟨continues, behind⟩ := ends_succ_iff.mp ends
          rw [if_pos continues, joined_succ, promptsBehind, if_pos continues]
          dsimp only
          rw [ih (continues.opens opens) behind]
          rfl

/-- A logical line is read up to the first physical line that does not go on, or to the last one
there is. It joins what these lines hold without the marks, one prompt is written behind each that
goes on, and the lines behind them stay unread. With no line nothing is read and nothing written. -/
theorem read_joins_parts (single : symbols.moreLines = [mark])
    (visible : Text.isBlank mark = false) :
    read symbols [] = ⟨none, [], []⟩ ∧
      (∀ lines ≠ [], ∃ last, Ends mark 0 lines last) ∧
      ∀ lines last, Ends mark 0 lines last →
        read symbols lines =
          ⟨some ((lines.take (last + 1)).mapIdx (part mark)).flatten,
            ((lines.take (last + 1)).mapIdx (promptsBehind symbols mark)).flatten,
            lines.drop (last + 1)⟩ := by
  refine ⟨rfl, fun lines occupied => exists_ends mark 0 occupied, fun lines last ends => ?_⟩
  cases lines with
  | nil => exact absurd ends.within last.not_lt_zero
  | cons first rest =>
      have opens : Opens 0 [] := rfl
      have found := extend_of_ends single visible opens ends
      rw [read]
      simpa [joined] using found

/-- The second line is the mark alone and goes on; the third ends in one without a space in front of
it, so the logical line ends there. -/
theorem read_joins_parts_at_mark_alone :
    let symbols := Symbols.standard
    let lines := ["echo a \\\n".text, " \\\n".text, "b\\\n".text, "c\n".text]
    symbols.moreLines = [.char '\\'] ∧ Text.isBlank '\\' = false ∧ Ends '\\' 0 lines 2 ∧
      read symbols lines = ⟨some "echo a b\\".text, ["| ".text, "| ".text], ["c\n".text]⟩ := by
  intro symbols lines
  have visible : Text.isBlank '\\' = false := by decide
  have ends : Ends '\\' 0 lines 2 := by
    refine ends_succ_iff.mpr ⟨by decide, ends_succ_iff.mpr ⟨by decide, ends_zero_iff.mpr ?_⟩⟩
    exact fun continues => absurd continues (by decide)
  refine ⟨rfl, visible, ends, ((read_joins_parts rfl visible).2.2 lines 2 ends).trans ?_⟩
  decide +kernel

end LineShell.LogicalLine
