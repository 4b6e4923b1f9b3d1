import LineShell.Proofs.Session.Log

/-!
Entries that still refer to the last line. Entering a line resolves its references, but the entry
put in their place is joined with what stands around them, and an unescaped pair of exclamation
marks can arise where two texts meet: an unescaped mark at the end of one may meet a mark, and an
odd backslash run at the end of one may meet an escaped pair. Apart from these seams no entry has a
reference.
-/

namespace LineShell.History

open Escape

/-- Holds of a text with an unescaped `!!`: an even number of backslashes stands directly before it.
-/
def HasReference (text : Text) : Prop :=
  ∃ front behind, text = front ++ .char '!' :: .char '!' :: behind ∧
    escapes (runAtEnd front) = false

theorem hasReference_backslashes (run : Nat) : ¬HasReference (backslashes run) := by
  rintro ⟨front, behind, split, -⟩
  have mark : .char '!' ∈ backslashes run := by
    rw [split]
    exact List.mem_append_right _ List.mem_cons_self
  exact notMem_backslashes (by decide) run mark

theorem hasReference_cons_iff {c : CodePoint} (plain : c ≠ '\\') (run : Nat) (rest : Text) :
    HasReference (backslashes run ++ c :: rest) ↔
      (escapes run = false ∧ c = '!' ∧ rest.head? = some (.char '!')) ∨ HasReference rest := by
  constructor
  · rintro ⟨front, behind, split, unescaped⟩
    rcases List.append_eq_append_iff.mp split with ⟨before, rfl, tail⟩ | ⟨after, run', tail⟩
    · cases before with
      | nil =>
          obtain ⟨rfl, rfl⟩ := List.cons.inj tail
          rw [List.append_nil, runAtEnd_backslashes] at unescaped
          exact Or.inl ⟨unescaped, rfl, rfl⟩
      | cons d before =>
          obtain ⟨rfl, rfl⟩ := List.cons.inj tail
          rw [runAtEnd_append_cons plain] at unescaped
          exact Or.inr ⟨before, behind, rfl, unescaped⟩
    · cases after with
      | nil =>
          obtain ⟨rfl, rfl⟩ := List.cons.inj tail
          rw [List.append_nil] at run'
          rw [← run', runAtEnd_backslashes] at unescaped
          exact Or.inl ⟨unescaped, rfl, rfl⟩
      | cons d after =>
          obtain ⟨rfl, -⟩ := List.cons.inj tail
          have mark : .char '!' ∈ backslashes run := by
            rw [run']
            exact List.mem_append_right _ List.mem_cons_self
          exact absurd mark (notMem_backslashes (by decide) run)
  · rintro (⟨unescaped, rfl, marked⟩ | ⟨front, behind, rfl, unescaped⟩)
    · obtain ⟨behind, rfl⟩ := List.head?_eq_some_iff.mp marked
      exact ⟨backslashes run, behind, rfl, by rwa [runAtEnd_backslashes]⟩
    · refine ⟨backslashes run ++ c :: front, behind, by simp, ?_⟩
      rwa [runAtEnd_append_cons plain]

def EndsOpen (text : Text) : Prop :=
  ∃ front, text = front ++ [.char '!'] ∧ escapes (runAtEnd front) = false

def StartsEscaped (text : Text) : Prop :=
  ∃ run behind, text = backslashes run ++ .char '!' :: .char '!' :: behind ∧ escapes run = true

/-- Holds of two texts that form a reference where they meet: a mark is completed to a pair, or an
escaped pair loses its escape to the backslashes before it. -/
def Clash (before after : Text) : Prop :=
  (EndsOpen before ∧ after.head? = some (.char '!')) ∨
    (escapes (runAtEnd before) = true ∧ StartsEscaped after)

theorem hasReference_of_clash {before after : Text} (clash : Clash before after) :
    HasReference (before ++ after) := by
  rcases clash with ⟨⟨front, rfl, unescaped⟩, marked⟩ | ⟨odd, run, behind, rfl, escaped⟩
  · obtain ⟨behind, rfl⟩ := List.head?_eq_some_iff.mp marked
    exact ⟨front, behind, by simp, unescaped⟩
  · refine ⟨before ++ backslashes run, behind, by simp, ?_⟩
    rw [runAtEnd_append_backslashes, escapes_add, odd, escaped]
    rfl

theorem hasReference_append_iff {before after : Text} (clean : ¬HasReference after) :
    HasReference (before ++ after) ↔ HasReference before ∨ Clash before after := by
  constructor
  · rintro ⟨front, behind, split, unescaped⟩
    rcases List.append_eq_append_iff.mp split with ⟨inside, rfl, tail⟩ | ⟨crossing, rfl, tail⟩
    · -- The pair stands in the second text, so the first one takes its escape away.
      obtain ⟨run, rest, rfl, plain⟩ := exists_eq_backslashes_append inside
      cases rest with
      | nil =>
          rw [List.append_nil] at tail unescaped
          rw [runAtEnd_append_backslashes, escapes_add] at unescaped
          cases parity : escapes run with
          | true =>
              rw [parity, Bool.xor_true, Bool.not_eq_false'] at unescaped
              exact Or.inr (Or.inr ⟨unescaped, run, behind, tail, parity⟩)
          | false =>
              have present : HasReference after :=
                ⟨backslashes run, behind, tail, by rwa [runAtEnd_backslashes]⟩
              exact absurd present clean
      | cons c rest =>
          have other : c ≠ '\\' := by simpa using plain
          refine absurd ⟨backslashes run ++ c :: rest, behind, tail, ?_⟩ clean
          rw [← List.append_assoc, runAtEnd_append_cons other] at unescaped
          rwa [runAtEnd_append_cons other]
    · cases crossing with
      | nil => exact absurd ⟨[], behind, tail.symm, rfl⟩ clean
      | cons c crossing =>
          obtain ⟨rfl, second⟩ := List.cons.inj tail
          cases crossing with
          | nil =>
              have marked : after.head? = some (.char '!') := (congrArg List.head? second).symm
              exact Or.inr (Or.inl ⟨⟨front, rfl, unescaped⟩, marked⟩)
          | cons d crossing =>
              obtain ⟨rfl, -⟩ := List.cons.inj second
              exact Or.inl ⟨front, crossing, rfl, unescaped⟩
  · rintro (⟨front, behind, rfl, unescaped⟩ | clash)
    · exact ⟨front, behind ++ after, by simp, unescaped⟩
    · exact hasReference_of_clash clash

theorem hasReference_flatten_iff {parts : List Text}
    (clean : ∀ part ∈ parts, ¬HasReference part) :
    HasReference parts.flatten ↔
      ∃ before part, before ++ [part] <+: parts ∧ Clash before.flatten part := by
  -- From the end: the last part has no reference, so it can only clash with all that is before it.
  induction parts using List.reverseRecOn with
  | nil =>
      constructor
      · exact fun found => absurd found (hasReference_backslashes 0)
      · rintro ⟨before, part, lead, -⟩
        exact absurd (List.prefix_nil.mp lead) (by simp)
  | append_singleton parts last ih =>
      have cleanLast := clean last (by simp)
      have cleanParts : ∀ part ∈ parts, ¬HasReference part :=
        fun part member => clean part (List.mem_append_left _ member)
      rw [List.flatten_append, List.flatten_singleton, hasReference_append_iff cleanLast,
        ih cleanParts]
      constructor
      · rintro (⟨before, part, lead, clash⟩ | clash)
        · exact ⟨before, part, lead.trans (List.prefix_append _ _), clash⟩
        · exact ⟨parts, last, List.prefix_refl _, clash⟩
      · rintro ⟨before, part, lead, clash⟩
        rcases List.prefix_concat_iff.mp lead with whole | earlier
        · obtain ⟨rfl, same⟩ := List.append_inj' whole rfl
          rw [List.singleton_inj.mp same] at clash
          exact Or.inr clash
        · exact Or.inl ⟨before, part, earlier, clash⟩

def prependFirst (lead : Text) : List Text → List Text
  | [] => [lead]
  | first :: others => (lead ++ first) :: others

/-- The texts before, between and behind the references of a text that `run` backslashes precede,
as they stay: the even run before a reference is halved. -/
def stretchesAfter (run : Nat) : Text → List Text
  | [] => [backslashes run]
  | [c] => if c = '\\' then [backslashes (run + 1)] else [backslashes run ++ [c]]
  | c :: d :: rest =>
      if c = '\\' then stretchesAfter (run + 1) (d :: rest)
      else if c = '!' && d = '!' && !escapes run then
        backslashes (run / 2) :: stretchesAfter 0 rest
      else prependFirst (backslashes run ++ [c]) (stretchesAfter 0 (d :: rest))

theorem stretchesAfter_ne_nil (run : Nat) (text : Text) : stretchesAfter run text ≠ [] := by
  fun_induction stretchesAfter run text with
  | case1 run => exact List.cons_ne_nil _ _
  | case2 run => exact List.cons_ne_nil _ _
  | case3 run c plain => exact List.cons_ne_nil _ _
  | case4 run d rest ih => exact ih
  | case5 run c d rest plain pair ih => exact List.cons_ne_nil _ _
  | case6 run c d rest plain other ih =>
      cases stretchesAfter 0 (d :: rest) <;> exact List.cons_ne_nil _ _

theorem intercalate_prependFirst (entry lead : Text) (texts : List Text) :
    entry.intercalate (prependFirst lead texts) = lead ++ entry.intercalate texts := by
  match texts with
  | [] => simp [prependFirst]
  | [first] => simp [prependFirst]
  | first :: second :: others => simp [prependFirst]

theorem resolveAfter_eq_intercalate (entry : Text) (run : Nat) (text : Text) :
    resolveAfter entry run text = entry.intercalate (stretchesAfter run text) := by
  fun_induction stretchesAfter run text with
  | case1 run => simp [resolveAfter]
  | case2 run => simp [resolveAfter]
  | case3 run c plain => simp [resolveAfter, plain]
  | case4 run d rest ih => rw [resolveAfter, if_pos rfl, ih]
  | case5 run c d rest plain pair ih =>
      rw [resolveAfter, if_neg plain, if_pos pair, ih]
      obtain ⟨first, others, found⟩ := List.exists_cons_of_ne_nil (stretchesAfter_ne_nil 0 rest)
      rw [found]
      simp
  | case6 run c d rest plain other ih =>
      rw [resolveAfter, if_neg plain, if_neg other, ih, intercalate_prependFirst]
      simp

theorem marked_of_head_stretchesAfter {run : Nat} {text first : Text} {others : List Text}
    (found : stretchesAfter run text = first :: others) (marked : first.head? = some (.char '!')) :
    run = 0 ∧ text.head? = some (.char '!') := by
  have unmarked (n : Nat) (rest : Text) (lead : (backslashes n ++ rest).head? = some (.char '!')) :
      n = 0 ∧ rest.head? = some (.char '!') := by
    cases n with
    | zero => exact ⟨rfl, lead⟩
    | succ n => cases lead
  fun_induction stretchesAfter run text generalizing first others with
  | case1 run =>
      cases found
      rw [← List.append_nil (backslashes run)] at marked
      cases (unmarked run [] marked).2
  | case2 run =>
      cases found
      cases marked
  | case3 run c plain =>
      cases found
      exact unmarked run [c] marked
  | case4 run d rest ih =>
      exact absurd (ih found marked).1 (Nat.succ_ne_zero run)
  | case5 run c d rest plain pair ih =>
      cases found
      rw [← List.append_nil (backslashes (run / 2))] at marked
      cases (unmarked (run / 2) [] marked).2
  | case6 run c d rest plain other ih =>
      obtain ⟨next, more, behind⟩ :=
        List.exists_cons_of_ne_nil (stretchesAfter_ne_nil 0 (d :: rest))
      rw [behind] at found
      cases found
      rw [List.append_assoc] at marked
      obtain ⟨zero, here⟩ := unmarked run ([c] ++ next) marked
      exact ⟨zero, here⟩

theorem not_hasReference_of_mem_stretchesAfter {run : Nat} {text : Text} :
    ∀ stretch ∈ stretchesAfter run text, ¬HasReference stretch := by
  fun_induction stretchesAfter run text with
  | case1 run => exact List.forall_mem_singleton.mpr (hasReference_backslashes run)
  | case2 run =>
      exact List.forall_mem_singleton.mpr (hasReference_backslashes (run + 1))
  | case3 run c plain =>
      refine List.forall_mem_singleton.mpr fun found => ?_
      rcases (hasReference_cons_iff plain run []).mp found with ⟨-, -, absent⟩ | absent
      · cases absent
      · exact hasReference_backslashes 0 absent
  | case4 run d rest ih => exact ih
  | case5 run c d rest plain pair ih =>
      exact List.forall_mem_cons.mpr ⟨hasReference_backslashes (run / 2), ih⟩
  | case6 run c d rest plain other ih =>
      obtain ⟨first, others, found⟩ :=
        List.exists_cons_of_ne_nil (stretchesAfter_ne_nil 0 (d :: rest))
      rw [found] at ih ⊢
      obtain ⟨cleanFirst, cleanOthers⟩ := List.forall_mem_cons.mp ih
      refine List.forall_mem_cons.mpr ⟨fun present => ?_, cleanOthers⟩
      rw [List.append_assoc] at present
      rcases (hasReference_cons_iff plain run first).mp present with
        ⟨unescaped, rfl, marked⟩ | inside
      · have second := (marked_of_head_stretchesAfter found marked).2
        cases second
        exact other (by simp [unescaped])
      · exact cleanFirst inside

/-- Holds of a history and a line if the last entry, put between the stretches of the line, meets
one of its neighbours in a clash. -/
def Glues (history : List Text) (line : Text) : Prop :=
  ∃ before part, before ++ [part] <+: (stretchesAfter 0 line).intersperse (last history) ∧
    Clash before.flatten part

theorem eq_or_mem_of_mem_intersperse {entry part : Text} {texts : List Text}
    (member : part ∈ texts.intersperse entry) : part = entry ∨ part ∈ texts := by
  match texts with
  | [] => cases member
  | [first] => exact Or.inr member
  | first :: second :: others =>
      rw [List.intersperse_cons_cons, List.mem_cons, List.mem_cons] at member
      rcases member with rfl | rfl | later
      · exact Or.inr List.mem_cons_self
      · exact Or.inl rfl
      · rcases eq_or_mem_of_mem_intersperse later with same | inside
        · exact Or.inl same
        · exact Or.inr (List.mem_cons_of_mem _ inside)

theorem hasReference_resolve_iff {history : List Text} (clean : ¬HasReference (last history))
    (line : Text) : HasReference (resolve history line) ↔ Glues history line := by
  have joined : resolve history line =
      ((stretchesAfter 0 line).intersperse (last history)).flatten :=
    resolveAfter_eq_intercalate (last history) 0 line
  rw [joined]
  refine hasReference_flatten_iff fun part member => ?_
  rcases eq_or_mem_of_mem_intersperse member with rfl | stretch
  · exact clean
  · exact not_hasReference_of_mem_stretchesAfter part stretch

theorem forall_not_hasReference_add_iff {history : List Text}
    (clean : ∀ entry ∈ history, ¬HasReference entry) (line : Text) :
    (∀ entry ∈ add history line, ¬HasReference entry) ↔ ¬Glues history line := by
  have cleanLast : ¬HasReference (last history) := by
    unfold last
    cases found : history.getLast? with
    | none =>
        rw [List.getLastD_eq_getLast?, found]
        exact hasReference_backslashes 0
    | some entry =>
        rw [List.getLastD_eq_getLast?, found]
        exact clean entry (List.mem_of_getLast? found)
  rw [add, List.forall_mem_append, List.forall_mem_singleton, hasReference_resolve_iff cleanLast]
  exact and_iff_right clean

/-- No entry of a session refers to the last line exactly if none of its lines, as it was entered,
made a reference at a seam. -/
theorem entries_resolved_iff (settings : Settings) (surroundings : Surroundings)
    (lines : List Text) :
    (∀ entry ∈ ((Session.start settings surroundings).afterLines lines).state.history,
        ¬HasReference entry) ↔
      ∀ earlier line, earlier ++ [line] <+: lines → Text.allBlank line = false →
        ¬Glues ((Session.start settings surroundings).afterLines earlier).state.history line := by
  induction lines using List.reverseRecOn with
  | nil =>
      have fresh : (Session.start settings surroundings).state.history = [[]] :=
        State.history_start _ _ _ _
      rw [Session.afterLines, List.map_nil, Session.after_nil, fresh]
      constructor
      · intro _ earlier line lead
        exact absurd (List.prefix_nil.mp lead) (by simp)
      · intro _ entry member
        rw [List.mem_singleton.mp member]
        exact hasReference_backslashes 0
  | append_singleton lines line ih =>
      rw [Session.afterLines_concat, Session.history_run]
      constructor
      · intro clean earlier other lead occupied
        have cleanBefore : ∀ entry ∈
            ((Session.start settings surroundings).afterLines lines).state.history,
            ¬HasReference entry := by
          intro entry member
          refine clean entry ?_
          split
          · exact member
          · exact List.mem_append_left _ member
        rcases List.prefix_concat_iff.mp lead with whole | inside
        · obtain ⟨rfl, same⟩ := List.append_inj' whole rfl
          rw [List.singleton_inj.mp same] at occupied ⊢
          rw [if_neg (by simp [occupied])] at clean
          exact (forall_not_hasReference_add_iff cleanBefore line).mp clean
        · exact ih.mp cleanBefore earlier other inside occupied
      · intro unglued
        have cleanBefore := ih.mpr fun earlier other lead =>
          unglued earlier other (lead.trans (List.prefix_append _ _))
        split
        · exact cleanBefore
        · next occupied =>
            refine (forall_not_hasReference_add_iff cleanBefore line).mpr ?_
            exact unglued lines line (List.prefix_refl _) (by simpa using occupied)

/-- The mark at the end of an entry and the one behind a reference to it form a pair. -/
theorem reference_completed_at_seam :
    ¬∀ (settings : Settings) (surroundings : Surroundings) (lines : List Text),
      ∀ entry ∈ ((Session.start settings surroundings).afterLines lines).state.history,
        ¬HasReference entry := by
  intro claimed
  have member : [.char 'x', .char '=', .char '!', .char '!'] ∈
      ((Session.start Settings.standard ⟨Bindings.empty, ['/']⟩).afterLines
        [['x', '=', '!'], ['!', '!', '!']]).state.history := by decide +kernel
  exact claimed _ _ _ _ member ⟨['x', '='], [], rfl, rfl⟩

end LineShell.History
