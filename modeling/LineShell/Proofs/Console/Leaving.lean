import LineShell.Proofs.Console.Turns
import LineShell.Proofs.FanOut
import LineShell.Proofs.PlainLine

/-!
How a console is left. At the end of its input it ends with the exit code of the last line that was
run, and with a bare `exit` with that of the last command. A line need not stand for any command, so
these are two things.
-/

namespace LineShell

namespace Step

theorem returnedCode?_of_returned {step : Step} {result : Result}
    (returned : step.outcome = .returned result) : step.returnedCode? = some result.exitCode := by
  unfold returnedCode?
  rw [returned]

theorem exitCode_of_outcomeOf {step : Step} {rest : List Step} {result : Result}
    (returned : outcomeOf (step :: rest) = .returned result) :
    ((step :: rest).filterMap returnedCode?).getLast? = some result.exitCode := by
  induction rest generalizing step result with
  | nil =>
      rw [List.filterMap_cons_some (returnedCode?_of_returned returned)]
      rfl
  | cons next rest ih =>
      rw [outcomeOf_cons_cons] at returned
      cases ended : step.outcome with
      | returned first =>
          rw [ended] at returned
          cases others : outcomeOf (next :: rest) with
          | returned last =>
              rw [others] at returned
              cases returned
              rw [List.filterMap_cons_some (returnedCode?_of_returned ended), List.getLast?_cons,
                ih others]
              rfl
          | exited last =>
              rw [others] at returned
              cases returned
          | failed failure =>
              rw [others] at returned
              cases returned
      | exited last =>
          rw [ended] at returned
          cases returned
      | failed failure =>
          rw [ended] at returned
          cases returned

end Step

def LineRun.codes (run : LineRun) : List Int :=
  run.steps.filterMap Step.returnedCode?

theorem LineRun.lastExitCode_runLine (registry : Registry) (state : State) (line : Text) :
    (runLine registry state line).state.lastExitCode =
      (runLine registry state line).codes.getLast?.getD state.lastExitCode := by
  unfold LineRun.codes runLine
  cases expansion : Expansion.expand state line with
  | error refusal =>
      obtain ⟨frame, -⟩ := Expansion.frame_of_refused expansion
      dsimp only
      rw [State.lastExitCode_rememberLine, frame]
      rfl
  | ok expanded =>
      obtain ⟨texts, next⟩ := expanded
      have unchanged : next.lastExitCode = state.lastExitCode := by
        rw [(Expansion.frame_of_expand expansion).1]
      dsimp only
      rw [State.lastExitCode_rememberLine, Step.lastExitCode_stateAfter (Step.follow_takeAll ..),
        unchanged]

theorem LineRun.exitCode_runLine {registry : Registry} {state : State} {line : Text}
    {result : Result} (returned : (runLine registry state line).outcome = .returned result) :
    result.exitCode = (runLine registry state line).codes.getLast?.getD 0 := by
  unfold LineRun.codes
  unfold runLine at returned ⊢
  cases expansion : Expansion.expand state line with
  | error refusal =>
      rw [expansion] at returned
      cases returned
  | ok expanded =>
      rw [expansion] at returned
      dsimp only at returned ⊢
      cases steps : Step.takeAll registry expanded.2 (commandsOf expanded.1) with
      | nil =>
          rw [steps] at returned
          cases returned
          rfl
      | cons step rest =>
          rw [steps] at returned
          rw [Step.exitCode_of_outcomeOf returned]
          rfl

def Turn.codes (turn : Turn) : List Int :=
  (runLine turn.session.settings.registry turn.session.state turn.line).codes

theorem Turn.lastExitCode_next (turn : Turn) :
    turn.next.state.lastExitCode = turn.codes.getLast?.getD turn.session.state.lastExitCode := by
  unfold Turn.next
  rw [Session.state_run, LineRun.lastExitCode_runLine]
  rfl

/-- A turn that does not leave the session ends with the exit code of its last command, or with zero
if there was none. -/
theorem Turn.ending_of_going {turn : Turn} (succeeds : turn.fails = false)
    (going : turn.next.terminated = false) : turn.ending = .ok (turn.codes.getLast?.getD 0) := by
  unfold Turn.fails Turn.outcome at succeeds
  unfold Turn.next at going
  unfold Turn.ending Turn.outcome
  unfold Session.run at succeeds going ⊢
  dsimp only at succeeds going ⊢
  cases ended : (runLine turn.session.settings.registry turn.session.state turn.line).outcome with
  | returned result =>
      change Except.ok result.exitCode = _
      rw [LineRun.exitCode_runLine ended]
      rfl
  | exited result =>
      rw [ended] at going
      cases going
  | failed failure =>
      rw [ended] at succeeds
      cases succeeds

namespace Session

theorem lastExitCode_turns (session : Session) (lines : List Text) :
    (session.afterLines ((session.turns lines).map Turn.line)).state.lastExitCode =
      ((session.turns lines).flatMap Turn.codes).getLast?.getD session.state.lastExitCode := by
  fun_induction Session.turns session lines with
  | case1 session lines terminated => rfl
  | case2 session lines unterminated written unread exhausted => rfl
  | case3 session lines unterminated line prompts unread found turn =>
      rename_i later
      have here : turn.next.state.lastExitCode =
          turn.codes.getLast?.getD session.state.lastExitCode := turn.lastExitCode_next
      cases ran : turn.outcome with
      | ok result =>
          refine later.trans ?_
          rw [here, List.flatMap_cons, List.getLast?_append]
          cases ((turn.next.turns unread).flatMap Turn.codes).getLast? <;> rfl
      | error failure =>
          refine here.trans ?_
          rw [List.flatMap_cons, List.flatMap_nil, List.append_nil]

theorem afterLines_of_last_turn {session : Session} {lines : List Text} {last : Turn}
    (found : (session.turns lines).getLast? = some last) :
    session.afterLines ((session.turns lines).map Turn.line) = last.next := by
  fun_induction Session.turns session lines with
  | case1 session lines terminated => cases found
  | case2 session lines unterminated written unread exhausted => cases found
  | case3 session lines unterminated line prompts unread read turn =>
      rename_i later
      rw [List.getLast?_cons] at found
      cases ran : turn.outcome with
      | ok result =>
          rw [ran] at found
          dsimp only at found
          cases others : (turn.next.turns unread).getLast? with
          | none =>
              rw [others] at found
              cases found
              rw [List.getLast?_eq_none_iff.mp others]
              rfl
          | some behind =>
              rw [others] at found
              cases found
              exact later others
      | error failure =>
          rw [ran] at found
          cases found
          rfl

theorem run_exit (session : Session) :
    (session.run "exit".text).1 = .ok ⟨[], [], session.state.lastExitCode⟩ ∧
      (session.run "exit".text).2.terminated = true := by
  have expanded : Expansion.expand session.state "exit".text =
      .ok (["exit".text], session.state) := Expansion.expand_of_plain (by decide) session.state
  have effect : effectOf session.settings.registry session.state "exit".text =
      ⟨.exited ⟨[], [], session.state.lastExitCode⟩, .nothing⟩ := by
    have cut : CommandLine.read? "exit".text = some ⟨"exit".text, none⟩ := by decide +kernel
    have recognized (line : Text) : Recognized.of session.settings.registry line
        ⟨"exit".text, none⟩ = .builtin .exit := by
      have named : Builtin.ofName? (Text.lower "exit".text) = some .exit := by decide +kernel
      unfold Recognized.of
      dsimp only
      rw [named]
    rw [effectOf, cut]
    dsimp only
    rw [recognized]
    rfl
  have outcome : (runLine session.settings.registry session.state "exit".text).outcome =
      .exited ⟨[], [], session.state.lastExitCode⟩ := by
    rw [runLine_of_single _ expanded (by decide +kernel) (by decide), effect]
  unfold run
  dsimp only
  rw [outcome]
  exact ⟨rfl, rfl⟩

end Session

namespace Text

theorem physicalLines_append {text : Text}
    (complete : text = [] ∨ text.getLast? = some (.char '\n'))
    (more : Text) : physicalLines (text ++ more) = physicalLines text ++ physicalLines more := by
  induction text with
  | nil => rfl
  | cons c rest ih =>
      have ends := complete.resolve_left (List.cons_ne_nil c rest)
      rw [List.getLast?_cons] at ends
      by_cases newline : c = '\n'
      · have completeRest : rest = [] ∨ rest.getLast? = some (.char '\n') := by
          cases last : rest.getLast? with
          | none => exact Or.inl (List.getLast?_eq_none_iff.mp last)
          | some d =>
              rw [last] at ends
              exact Or.inr ends
        rw [List.cons_append, physicalLines, physicalLines, if_pos newline, if_pos newline,
          ih completeRest]
        rfl
      · cases last : rest.getLast? with
        | none =>
            rw [last] at ends
            exact absurd (Option.some.inj ends) newline
        | some d =>
            rw [last] at ends
            rw [List.cons_append, physicalLines, physicalLines, if_neg newline, if_neg newline,
              ih (Or.inr (last.trans ends))]
            cases lines : physicalLines rest with
            | nil =>
                have rebuilt := flatten_physicalLines rest
                rw [lines] at rebuilt
                rw [← rebuilt] at last
                cases last
            | cons first others => rfl

end Text

namespace Console

def fed (console : Console) (lines : List Text) : Console :=
  lines.foldl (fun reached line => (reached.feed line).2) console

/-- As long as nothing stops the console, what is left to read does not matter to what was read. -/
theorem feedAll_of_going {console : Console} {lines : List Text}
    (going : (console.feedAll lines).console.stopped = false) :
    (console.feedAll lines).console = (console.fed lines).close.2 ∧
      ∀ more, (console.feedAll (lines ++ more)).console =
        ((console.fed lines).feedAll more).console := by
  induction lines generalizing console with
  | nil => exact ⟨rfl, fun _ => rfl⟩
  | cons line rest ih =>
      have running : ¬(console.feed line).2.stopped = true := by
        intro stopped
        rw [feedAll, if_pos stopped] at going
        rw [stopped] at going
        cases going
      rw [feedAll, if_neg running] at going
      obtain ⟨closed, further⟩ := ih going
      constructor
      · rw [feedAll, if_neg running]
        exact closed
      · intro more
        rw [List.cons_append, feedAll, if_neg running]
        exact further more

theorem feedAll_exit {console : Console} (between : console.pending = none)
    (unfailed : console.failure = none) :
    Program.endingOf (console.feedAll ["exit\n".text]).console =
      .ok console.session.state.lastExitCode := by
  have complete : LogicalLine.continued? console.session.state.symbols "exit".text = none := by
    unfold LogicalLine.continued?
    apply if_neg
    intro continues
    have space : .char ' ' ∈ "exit".text :=
      (List.isSuffixOf_iff_suffix.mp continues).subset List.mem_cons_self
    exact absurd space (by decide)
  have trimmed : console.pending.getD [] ++ Text.trim "exit\n".text = "exit".text := by
    rw [between]
    decide +kernel
  have feeds : console.feed "exit\n".text = console.runAndPrompt "exit".text := by
    unfold feed
    dsimp only
    rw [trimmed, complete]
  obtain ⟨ran, left⟩ := console.session.run_exit
  have taken := run_of_ok ran
  have stopped : (console.runAndPrompt "exit".text).2.stopped = true := by
    unfold runAndPrompt
    rw [taken, Console.stopped, left]
    rfl
  rw [feedAll, feeds, if_pos stopped]
  unfold runAndPrompt
  rw [taken, Program.endingOf, unfailed]

/-- At the end of its input a console ends with the exit code of the last command of the last line,
or with zero if that line stood for none. -/
theorem Tells.ending_of_going {console : Console} {lines : List Text} {transcript : Transcript}
    (tells : Tells console lines (console.session.turns lines) transcript)
    (going : transcript.console.stopped = false) (fresh : Program.endingOf console = .ok 0) :
    let codes := (console.session.turns lines).map Turn.codes
    Program.endingOf transcript.console = .ok ((codes.getLast?.bind List.getLast?).getD 0) := by
  intro codes
  have running := going
  rw [tells.stopped, Bool.or_eq_false_iff] at running
  rw [tells.ending, List.getLast?_map]
  cases found : (console.session.turns lines).getLast? with
  | none => exact fresh
  | some last =>
      have succeeds : last.fails = false :=
        Bool.eq_false_iff.mpr (List.any_eq_false.mp running.2 last (List.mem_of_getLast? found))
      have goesOn : last.next.terminated = false := by
        rw [← Session.afterLines_of_last_turn found, ← tells.session]
        exact running.1
      exact Turn.ending_of_going succeeds goesOn

theorem console_readAll {console : Console} (running : console.stopped = false) (input : Text) :
    (console.readAll input).console = (console.feedAll (Text.physicalLines input)).console := by
  unfold readAll
  dsimp only
  rw [running, if_neg Bool.false_ne_true]

/-- With a bare `exit` behind its input a console ends with the exit code that its state has there.
-/
theorem ending_of_exit {console : Console} {input : Text} (running : console.stopped = false)
    (complete : input = [] ∨ input.getLast? = some (.char '\n'))
    (going : (console.readAll input).console.stopped = false)
    (between : (console.fed (Text.physicalLines input)).pending = none) :
    Program.endingOf (console.readAll (input ++ "exit\n".text)).console =
      .ok (console.readAll input).console.session.state.lastExitCode := by
  rw [console_readAll running] at going
  obtain ⟨closed, further⟩ := feedAll_of_going going
  have reached : (console.feedAll (Text.physicalLines input)).console =
      console.fed (Text.physicalLines input) := by
    rw [closed, close_of_between between]
  have unfailed : (console.fed (Text.physicalLines input)).failure = none := by
    rw [← reached]
    exact Option.not_isSome_iff_eq_none.mp (Bool.eq_false_iff.mp (Bool.or_eq_false_iff.mp going).2)
  rw [console_readAll running, console_readAll running, Text.physicalLines_append complete]
  have line : Text.physicalLines "exit\n".text = ["exit\n".text] := by decide
  rw [line, further, feedAll_exit between unfailed, reached]

/-- The last element of all and that of the last list are the same, or there is none in the last
list. -/
theorem getLast?_flatten_eq_iff (codes : List (List Int)) :
    codes.flatten.getLast?.getD 0 = (codes.getLast?.bind List.getLast?).getD 0 ↔
      (∃ last ∈ codes.getLast?, last ≠ []) ∨ codes.flatten.getLast?.getD 0 = 0 := by
  cases found : codes.getLast? with
  | none =>
      rw [List.getLast?_eq_none_iff.mp found]
      exact iff_of_true rfl (Or.inr rfl)
  | some last =>
      obtain ⟨front, rfl⟩ := List.getLast?_eq_some_iff.mp found
      rw [List.flatten_append, List.flatten_singleton, List.getLast?_append, Option.bind_some]
      cases ends : last.getLast? with
      | none =>
          have empty : last = [] := List.getLast?_eq_none_iff.mp ends
          simp [empty]
      | some code =>
          have occupied : last ≠ [] := by
            intro empty
            rw [empty] at ends
            cases ends
          exact iff_of_true rfl (Or.inl ⟨last, rfl, occupied⟩)

/-- A console is fed complete lines, waits for no continuation and is not left by them. At the end
of the input it ends with the exit code of the last command of the last line, or with zero if that
line stood for no command; with an `exit` behind them, with that of the last command of all. So
the two are the same unless the last line stood for none and the last command was unsuccessful. -/
theorem endingOf_close_eq_exit_iff {settings : Settings} {surroundings : Surroundings}
    {input : Text} (complete : input = [] ∨ input.getLast? = some (.char '\n'))
    (going : ((start (.start settings surroundings) false).readAll input).console.stopped = false)
    (between : ((start (.start settings surroundings) false).fed
      (Text.physicalLines input)).pending = none) :
    let session := Session.start settings surroundings
    let console := start session false
    let codes := (session.turns (Text.physicalLines input)).map Turn.codes
    let atEnd := Program.endingOf (console.readAll input).console
    let byExit := Program.endingOf (console.readAll (input ++ "exit\n".text)).console
    atEnd = .ok ((codes.getLast?.bind List.getLast?).getD 0) ∧
      byExit = .ok (codes.flatten.getLast?.getD 0) ∧
      (byExit = atEnd ↔
        (∃ last ∈ codes.getLast?, last ≠ []) ∨ codes.flatten.getLast?.getD 0 = 0) := by
  intro session console codes atEnd byExit
  have tells : Tells console (Text.physicalLines input)
      (session.turns (Text.physicalLines input)) (console.readAll input) :=
    tells_readLines rfl rfl (Text.physicalLines input)
  have atEndCode : atEnd = .ok ((codes.getLast?.bind List.getLast?).getD 0) :=
    tells.ending_of_going going rfl
  have byExitCode : byExit = .ok (codes.flatten.getLast?.getD 0) := by
    have left : byExit = .ok (console.readAll input).console.session.state.lastExitCode :=
      ending_of_exit rfl complete going between
    have behind : (console.readAll input).console.session =
        session.afterLines ((session.turns (Text.physicalLines input)).map Turn.line) :=
      tells.session
    rw [left, behind, Session.lastExitCode_turns, List.flatMap_def]
    change Except.ok (codes.flatten.getLast?.getD (settings.state surroundings).lastExitCode) = _
    rw [Settings.state, State.lastExitCode_start]
  refine ⟨atEndCode, byExitCode, ?_⟩
  rw [atEndCode, byExitCode, Except.ok.injEq]
  exact getLast?_flatten_eq_iff codes

/-- An unknown command, and a blank line behind it. -/
theorem endingOf_close_eq_exit_iff_behind_blank :
    let console := start (.start Settings.standard ⟨Bindings.empty, ['/']⟩) false
    let input := "echo a\nnosuch\n\n".text
    input.getLast? = some (.char '\n') ∧ (console.readAll input).console.stopped = false ∧
      (console.fed (Text.physicalLines input)).pending = none ∧
      Program.endingOf (console.readAll input).console = .ok 0 ∧
      Program.endingOf (console.readAll (input ++ "exit\n".text)).console = .ok 127 := by
  intro console input
  have ends : input.getLast? = some (.char '\n') := by decide +kernel
  have going : (console.readAll input).console.stopped = false := by decide +kernel
  have between : (console.fed (Text.physicalLines input)).pending = none := by decide +kernel
  obtain ⟨atEnd, byExit, -⟩ := endingOf_close_eq_exit_iff (Or.inr ends) going between
  exact ⟨ends, going, between, atEnd.trans (by decide +kernel), byExit.trans (by decide +kernel)⟩

/-- A blank line hides the exit code of the command before it from the end of the input, and not
from an `exit`. -/
theorem ending_forgotten_behind_blank :
    ¬∀ (surroundings : Surroundings) (settings : Settings) (input : Text),
      settings.registry = Registry.standard → input = [] ∨ input.getLast? = some (.char '\n') →
      ((start (.start settings surroundings) false).readAll input).console.stopped = false →
      ((start (.start settings surroundings) false).fed (Text.physicalLines input)).pending = none →
        Program.endingOf ((start (.start settings surroundings) false).readAll
            (input ++ "exit\n".text)).console =
          Program.endingOf
            ((start (.start settings surroundings) false).readAll input).console := by
  intro claimed
  have same := claimed ⟨Bindings.empty, ['/']⟩ Settings.standard "nosuch\n\n".text rfl
    (Or.inr (by decide +kernel)) (by decide +kernel) (by decide +kernel)
  exact absurd same (by decide +kernel)

end Console

end LineShell
