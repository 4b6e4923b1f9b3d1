import Mathlib.Data.List.DropRight
import LineShell.Proofs.PlainLine
import LineShell.Proofs.Session.Course
import LineShell.Proofs.Text.Numeral

/-!
The history as a log of a session. Behind its empty first entry it holds one entry for each line
that was run and is not blank, each resolved against the entries before it; nothing else touches it,
and the `history` builtin lists it.
-/

namespace LineShell

namespace History

/-- Holds of a history that was filled by entering some lines in order. -/
structure Logs (history entered : List Text) : Prop where
  first : history[0]? = some []
  count : history.length = entered.length + 1
  entry : ∀ place line, entered[place]? = some line →
    history[place + 1]? = some (resolve (history.take (place + 1)) line)

theorem logs_nil : Logs [[]] [] where
  first := rfl
  count := rfl
  entry place line found := by simp at found

theorem Logs.add {history entered : List Text} (logs : Logs history entered) (line : Text) :
    Logs (History.add history line) (entered ++ [line]) where
  first := by
    have occupied : 0 < history.length := by rw [logs.count]; omega
    rw [History.add, List.getElem?_append_left occupied]
    exact logs.first
  count := by
    rw [History.add, List.length_append, List.length_append, logs.count]
    rfl
  entry := by
    intro place other found
    have count := logs.count
    rw [History.add]
    rcases Nat.lt_or_ge place entered.length with earlier | later
    · rw [List.getElem?_append_left earlier] at found
      rw [List.getElem?_append_left (by omega), List.take_append_of_le_length (by omega)]
      exact logs.entry place other found
    · -- The place behind all others is that of the new entry, and all others stand before it.
      have here : place = entered.length := by
        have inside := (List.getElem?_eq_some_iff.mp found).1
        rw [List.length_append, List.length_singleton] at inside
        omega
      subst here
      rw [List.getElem?_concat_length] at found
      cases found
      rw [← count, List.getElem?_concat_length, List.take_left]

def numbered (entries : List Text) : List Text :=
  entries.mapIdx fun place entry =>
    Builtin.flushRight (Numeral.digits entries.length).length (place + 1) ++ "  ".text ++ entry

@[simp] theorem length_numbered (entries : List Text) :
    (numbered entries).length = entries.length :=
  List.length_mapIdx

end History

open History

namespace Builtin

theorem map_numberedEntries (history : List Text) :
    (numberedEntries history).map (fun entry =>
      flushRight (Numeral.digits (history.length - 1)).length entry.1 ++ "  ".text ++ entry.2) =
      numbered history.tail := by
  rw [numberedEntries, numbered, List.mapIdx_eq_zipIdx_map, List.drop_one, List.length_tail,
    List.zipIdx_eq_map_add, List.map_map, List.map_map]
  refine List.map_congr_left fun entry _ => ?_
  simp only [Function.comp_apply, Nat.add_comm]

theorem historyListing_numberedEntries (history : List Text) :
    historyListing history (numberedEntries history) = Text.asLines (numbered history.tail) :=
  congrArg Text.asLines (map_numberedEntries history)

theorem length_numberedEntries (history : List Text) :
    (numberedEntries history).length = history.tail.length := by
  rw [← length_numbered, ← map_numberedEntries, List.length_map]

theorem historyListing_drop (history : List Text) (count : Nat) :
    historyListing history ((numberedEntries history).drop count) =
      Text.asLines ((numbered history.tail).drop count) := by
  rw [← map_numberedEntries, ← List.map_drop]
  rfl

theorem runHistory_nil (state : State) {line : CommandLine} (bare : line.words = []) :
    runHistory state line = .success (Text.asLines (numbered state.history.tail)) := by
  rw [runHistory, bare]
  exact congrArg Result.success (historyListing_numberedEntries state.history)

theorem runHistory_number (state : State) {line : CommandLine} {word : Text} {others : List Text}
    {number : Int} (asked : line.words = word :: others)
    (read : Numeral.toInt? word = some number) :
    runHistory state line =
      .success (Text.asLines ((numbered state.history.tail).rtake
        (min number.toNat state.history.tail.length))) := by
  have last : state.history.tail.length - number.toNat =
      state.history.tail.length - min number.toNat state.history.tail.length := by omega
  rw [runHistory, asked]
  dsimp only
  rw [read]
  dsimp only
  rw [historyListing_drop, length_numberedEntries, last, List.rtake, length_numbered]

end Builtin

theorem effectOf_history (registry : Registry) (state : State) {line : Text}
    {argument : Option Text}
    (read : CommandLine.read? line = some ⟨"history".text, argument⟩) :
    effectOf registry state line =
      .returning (Builtin.runHistory state ⟨"history".text, argument⟩) := by
  have recognized : Builtin.ofName? (Text.lower "history".text) = some .history := by
    decide +kernel
  rw [effectOf, read]
  dsimp only
  rw [Recognized.of]
  dsimp only
  rw [recognized]
  rfl

namespace Session

theorem run_history (session : Session) {line : Text} {argument : Option Text}
    (plain : Escape.Plain line) (trimmed : Text.trim line = line)
    (read : CommandLine.read? line = some ⟨"history".text, argument⟩) :
    (session.run line).1 =
      .ok (Builtin.runHistory session.state ⟨"history".text, argument⟩) := by
  have nonempty : line ≠ [] := by
    rintro rfl
    cases read
  have ran := runLine_of_single session.settings.registry
    (Expansion.expand_of_plain plain session.state) trimmed nonempty
  unfold run
  rw [ran, effectOf_history _ _ read]
  rfl

theorem logs_afterLines (settings : Settings) (surroundings : Surroundings) (lines : List Text) :
    Logs ((start settings surroundings).afterLines lines).state.history
      (lines.filter fun line => !Text.allBlank line) := by
  induction lines using List.reverseRecOn with
  | nil =>
      have fresh : (start settings surroundings).state.history = [[]] :=
        State.history_start _ _ _ _
      rw [afterLines, List.map_nil, after_nil, fresh]
      exact logs_nil
  | append_singleton lines line ih =>
      rw [afterLines_concat, history_run, List.filter_append]
      cases blank : Text.allBlank line with
      | true =>
          rw [if_pos rfl, List.filter_cons_of_neg (by simp [blank]), List.filter_nil,
            List.append_nil]
          exact ih
      | false =>
          rw [if_neg (by decide), List.filter_cons_of_pos (by simp [blank]), List.filter_nil]
          exact ih.add line

theorem history_prefix_afterLines (session : Session) (lines : List Text) :
    session.state.history <+: (session.afterLines lines).state.history := by
  induction lines using List.reverseRecOn with
  | nil => exact List.prefix_refl _
  | append_singleton lines line ih =>
      rw [afterLines_concat, history_run]
      split
      · exact ih
      · exact ih.trans (List.prefix_append _ _)

theorem run_history_bare (session : Session) :
    (session.run "history".text).1 =
      .ok (.success (Text.asLines (numbered session.state.history.tail))) := by
  have plain : Escape.Plain "history".text := by decide
  have solid : Text.Solid "history".text := by decide
  have read := CommandLine.read?_of_solid solid (by decide)
  rw [session.run_history plain solid.trim_eq read, Builtin.runHistory_nil _ rfl]

theorem run_history_number (session : Session) {word : Text} {number : Int}
    (read : Numeral.toInt? word = some number) :
    (session.run ("history ".text ++ word)).1 =
      .ok (.success (Text.asLines ((numbered session.state.history.tail).rtake
        (min number.toNat session.state.history.tail.length)))) := by
  obtain ⟨nonempty, parts⟩ := Numeral.isPart_of_toInt? read
  have solidWord : Text.Solid word := fun c member => Numeral.isBlank_of_isPart (parts c member)
  have plainWord : Escape.Plain word := fun c member =>
    ⟨Numeral.ne_of_isPart (parts c member) (by decide),
      Numeral.ne_of_isPart (parts c member) (by decide),
      Numeral.ne_of_isPart (parts c member) (by decide),
      Numeral.ne_of_isPart (parts c member) (by decide)⟩
  have solidName : Text.Solid "history".text := by decide
  have plain : Escape.Plain ("history ".text ++ word) := by
    have lead : Escape.Plain "history ".text := by decide
    exact List.forall_mem_append.mpr ⟨lead, plainWord⟩
  have trimmed := solidName.trim_append (by decide) nonempty
    fun c last => solidWord c (List.mem_of_getLast? last)
  have cut := CommandLine.read?_of_argument solidName (by decide) nonempty solidWord.trim_eq
  have asked : CommandLine.words ⟨"history".text, some word⟩ = [word] :=
    solidWord.words_eq nonempty
  rw [session.run_history plain trimmed cut, Builtin.runHistory_number _ asked read]

/-- The history of a session is a log of its lines: behind the empty first entry one entry for each
line that is not blank, resolved against the history before it. Running on only appends to it, and
neither blank lines nor expansions nor commands touch it. The `history` builtin prints the entries
before its own line with their numbers, and `history n` the last `n` of these lines, or all of them
if there are fewer. -/
theorem history_logs_lines (settings : Settings) (surroundings : Surroundings)
    (lines : List Text) :
    let session := (start settings surroundings).afterLines lines
    let history := session.state.history
    Logs history (lines.filter fun line => !Text.allBlank line) ∧
      (∀ more, history <+: (session.afterLines more).state.history) ∧
      (∀ line, Text.allBlank line = true → (session.run line).2.state.history = history) ∧
      (∀ (state next : State) (line : Text) (texts : List Text),
        Expansion.expand state line = .ok (texts, next) → next.history = state.history) ∧
      (∀ (registry : Registry) (state : State) (command : Text),
        (execute registry state command).2.history = state.history) ∧
      (session.run "history".text).1 =
        .ok (.success (Text.asLines (numbered history.tail))) ∧
      ∀ (word : Text) (number : Int), Numeral.toInt? word = some number → 0 < number →
        (session.run ("history ".text ++ word)).1 =
          .ok (.success (Text.asLines ((numbered history.tail).rtake
            (min number.toNat history.tail.length)))) := by
  intro session history
  refine ⟨logs_afterLines settings surroundings lines, session.history_prefix_afterLines,
    fun line blank => ?_, fun state next line texts expanded => ?_,
    fun registry state command => state.history_apply _, session.run_history_bare,
    fun word number read _ => session.run_history_number read⟩
  · rw [history_run, if_pos blank]
  · rw [(Expansion.frame_of_expand expanded).1]

/-- A session with an assignment, a blank line and a line that refers to the assignment. -/
theorem history_logs_lines_at_three :
    Numeral.toInt? ['1'] = some 1 ∧ (0 : Int) < 1 ∧
      (((start Settings.standard ⟨Bindings.empty, ['/']⟩).afterLines
          [['x', '=', '1'], [' '], ['y', '=', '!', '!']]).run "history 1".text).1 =
        .ok (.success "2  y=x=1\n".text) := by
  have read : Numeral.toInt? ['1'] = some 1 := by decide +kernel
  have positive : (0 : Int) < 1 := by decide
  have listed := (history_logs_lines Settings.standard ⟨Bindings.empty, ['/']⟩
    [['x', '=', '1'], [' '], ['y', '=', '!', '!']]).2.2.2.2.2.2 ['1'] 1 read positive
  refine ⟨read, positive, listed.trans ?_⟩
  decide +kernel

end Session

end LineShell
