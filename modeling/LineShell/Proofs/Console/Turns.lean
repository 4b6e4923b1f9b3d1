import LineShell.Program
import LineShell.Proofs.Session.Course

/-!
What a console does with a whole input. It is fed physical lines one at a time and may wait in the
middle of a logical line; the session behind it knows logical lines only. The two agree turn by
turn: in each turn one logical line is read under the symbols then in force, and run.
-/

namespace LineShell

namespace LogicalLine

theorem exists_line_extend (symbols : Symbols) (text : Text) (lines : List Text) :
    ∃ line, (extend symbols text lines).line = some line := by
  induction lines generalizing text with
  | nil =>
      rw [extend]
      split
      · exact ⟨text, rfl⟩
      · next kept _ => exact ⟨kept, rfl⟩
  | cons next rest ih =>
      rw [extend]
      split
      · exact ⟨text, rfl⟩
      · next kept _ => exact ih (kept ++ Text.trim next)

theorem suffix_extend (symbols : Symbols) (text : Text) (lines : List Text) :
    (extend symbols text lines).unread <:+ lines := by
  induction lines generalizing text with
  | nil =>
      rw [extend]
      split
      · exact List.suffix_refl _
      · exact List.suffix_refl _
  | cons next rest ih =>
      rw [extend]
      split
      · exact List.suffix_refl _
      · next kept _ => exact (ih (kept ++ Text.trim next)).trans (List.suffix_cons next rest)

theorem suffix_of_read {symbols : Symbols} {lines written unread : List Text} {line : Text}
    (found : read symbols lines = ⟨some line, written, unread⟩) :
    ∃ first rest, lines = first :: rest ∧ unread <:+ rest := by
  cases lines with
  | nil => cases found
  | cons first rest =>
      have behind := suffix_extend symbols (Text.trim first) rest
      change extend symbols (Text.trim first) rest = _ at found
      rw [found] at behind
      exact ⟨first, rest, rfl, behind⟩

theorem length_of_read {symbols : Symbols} {lines written unread : List Text} {line : Text}
    (found : read symbols lines = ⟨some line, written, unread⟩) :
    unread.length < lines.length := by
  obtain ⟨first, rest, rfl, behind⟩ := suffix_of_read found
  have bounded := behind.length_le
  rw [List.length_cons]
  omega

end LogicalLine

/-- A logical line that is read in a session, to be run there: the prompts are those for its
continuations, and the physical lines behind it are unread. -/
structure Turn where
  session : Session
  line : Text
  prompts : List Text
  unread : List Text

namespace Turn

def outcome (turn : Turn) : Except Failure Result :=
  (turn.session.run turn.line).1

def next (turn : Turn) : Session :=
  (turn.session.run turn.line).2

/-- What stands on the first stream behind the turn: prompts and output. A line that fails has no
output. -/
def stdout (turn : Turn) : Text :=
  turn.session.prompt ++ turn.prompts.flatten ++
    match turn.outcome with
    | .ok result => result.stdout
    | .error _ => []

def stderr (turn : Turn) : Text :=
  match turn.outcome with
  | .ok result => result.stderr
  | .error _ => []

def ending (turn : Turn) : Except Failure Int :=
  turn.outcome.map Result.exitCode

def fails (turn : Turn) : Bool :=
  match turn.outcome with
  | .ok _ => false
  | .error _ => true

end Turn

/-- The turns of a session with some physical lines: while it is not terminated and lines are left,
it reads one logical line under its symbols and runs it. A line that fails is the last one. -/
def Session.turns (session : Session) (lines : List Text) : List Turn :=
  if session.terminated then []
  else match _found : LogicalLine.read session.state.symbols lines with
    | ⟨none, _, _⟩ => []
    | ⟨some line, prompts, unread⟩ =>
        let turn : Turn := ⟨session, line, prompts, unread⟩
        turn :: match turn.outcome with
          | .ok _ => turns turn.next unread
          | .error _ => []
termination_by lines.length
decreasing_by exact LogicalLine.length_of_read _found

theorem Session.length_turns_le (session : Session) (lines : List Text) :
    (session.turns lines).length ≤ lines.length := by
  fun_induction Session.turns session lines with
  | case1 session lines terminated => exact Nat.zero_le _
  | case2 session lines unterminated written unread exhausted => exact Nat.zero_le _
  | case3 session lines unterminated line prompts unread found turn =>
      rename_i later
      have shorter := LogicalLine.length_of_read found
      rw [List.length_cons]
      split
      · omega
      · rw [List.length_nil]
        omega

theorem Session.suffix_turns (session : Session) (lines : List Text) :
    ((session.turns lines).getLast?.map Turn.unread).getD lines <:+ lines := by
  fun_induction Session.turns session lines with
  | case1 session lines terminated => exact List.suffix_refl _
  | case2 session lines unterminated written unread exhausted => exact List.suffix_refl _
  | case3 session lines unterminated line prompts unread found turn =>
      rename_i later
      obtain ⟨first, rest, rfl, behind⟩ := LogicalLine.suffix_of_read found
      have here : unread <:+ first :: rest := behind.trans (List.suffix_cons first rest)
      rw [List.getLast?_cons, Option.map_some, Option.getD_some, ← Option.getD_map Turn.unread]
      split
      · exact later.trans here
      · exact here

/-! ### What is written -/

namespace Written

@[simp] theorem stdout_append (first second : Written) :
    (first ++ second).stdout = first.stdout ++ second.stdout := rfl

@[simp] theorem stderr_append (first second : Written) :
    (first ++ second).stderr = first.stderr ++ second.stderr := rfl

@[simp] theorem stdout_out (text : Text) : (out text).stdout = text := rfl

@[simp] theorem stderr_out (text : Text) : (out text).stderr = [] := rfl

theorem append_assoc (first second third : Written) :
    first ++ second ++ third = first ++ (second ++ third) :=
  congrArg₂ Written.mk (List.append_assoc ..) (List.append_assoc ..)

theorem out_append_out (first second : Text) : out first ++ out second = out (first ++ second) :=
  rfl

theorem append_out_nil (written : Written) : written ++ out [] = written :=
  congrArg₂ Written.mk (List.append_nil _) (List.append_nil _)

end Written

namespace Console

def Transcript.precededBy (transcript : Transcript) (written : Written) : Transcript :=
  { transcript with written := written ++ transcript.written }

theorem precededBy_precededBy (transcript : Transcript) (first second : Written) :
    (transcript.precededBy second).precededBy first = transcript.precededBy (first ++ second) := by
  unfold Transcript.precededBy
  rw [Written.append_assoc]

def readLines (console : Console) (lines : List Text) : Transcript :=
  if console.stopped then ⟨.out [], console, lines⟩
  else (console.feedAll lines).precededBy console.promptIfReading

def awaiting (console : Console) (pending : Option Text) : Console :=
  { console with pending }

theorem pending_run (console : Console) (line : Text) : (console.run line).2.pending = none := by
  unfold run
  dsimp only
  split <;> rfl

theorem awaiting_none {console : Console} (between : console.pending = none) :
    console.awaiting none = console := by
  cases console
  cases between
  rfl

theorem close_of_between {console : Console} (between : console.pending = none) :
    console.close = (.out (if console.stopped then [] else ['\n']), console) := by
  rw [close, between]
  rfl

/-- What follows something written: nothing more if the console has stopped by then, else what it
makes of the lines that are left. -/
def goOn (fed : Written × Console) (unread : List Text) : Transcript :=
  if fed.2.stopped then ⟨fed.1, fed.2, unread⟩
  else (fed.2.feedAll unread).precededBy fed.1

theorem feedAll_cons (console : Console) (line : Text) (rest : List Text) :
    console.feedAll (line :: rest) = goOn (console.feed line) rest := rfl

theorem goOn_runAndPrompt (console : Console) (line : Text) (unread : List Text) :
    goOn (console.runAndPrompt line) unread =
      ((console.run line).2.readLines unread).precededBy (console.run line).1 := by
  unfold goOn readLines runAndPrompt
  dsimp only
  by_cases stopped : (console.run line).2.stopped = true
  · rw [if_pos stopped, if_pos stopped, promptIfReading, if_pos stopped]
    rfl
  · rw [if_neg stopped, if_neg stopped, precededBy_precededBy]

theorem goOn_nil {fed : Written × Console} (between : fed.2.pending = none) :
    goOn fed [] = ⟨fed.1 ++ .out (if fed.2.stopped then [] else ['\n']), fed.2, []⟩ := by
  unfold goOn
  by_cases stopped : fed.2.stopped = true
  · rw [if_pos stopped, if_pos stopped, Written.append_out_nil]
  · rw [if_neg stopped, if_neg stopped, feedAll, close_of_between between, if_neg stopped]
    rfl

theorem feedAll_nil_awaiting (console : Console) (kept : Text) :
    (console.awaiting (some kept)).feedAll [] = goOn (console.runAndPrompt kept) [] := by
  have between : (console.runAndPrompt kept).2.pending = none := console.pending_run kept
  rw [goOn_nil between]
  rfl

theorem feed_awaiting (console : Console) (pending : Option Text) (line : Text) :
    (console.awaiting pending).feed line =
      match LogicalLine.continued? console.session.state.symbols
        (pending.getD [] ++ Text.trim line) with
      | some kept =>
          (.out (LogicalLine.continuationPrompt console.session.state.symbols),
            console.awaiting (some kept))
      | none => console.runAndPrompt (pending.getD [] ++ Text.trim line) := rfl

theorem goOn_awaiting {console : Console} (going : console.stopped = false) (written : Written)
    (kept : Text) (unread : List Text) :
    goOn (written, console.awaiting (some kept)) unread =
      ((console.awaiting (some kept)).feedAll unread).precededBy written := by
  have goingOn : (console.awaiting (some kept)).stopped = false := going
  rw [goOn, if_neg (by simp [goingOn])]

/-- Behind the parts of a logical line read so far, feeding the lines that are left is reading on to
the end of the logical line and running it. -/
theorem feedAll_awaiting {console : Console} (going : console.stopped = false)
    (pending : Option Text) (line : Text)
    (rest : List Text) {text : Text} {written unread : List Text}
    (read : LogicalLine.extend console.session.state.symbols (pending.getD [] ++ Text.trim line)
      rest = ⟨some text, written, unread⟩) :
    (console.awaiting pending).feedAll (line :: rest) =
      (goOn (console.runAndPrompt text) unread).precededBy (.out written.flatten) := by
  rw [feedAll_cons]
  induction rest generalizing pending line written with
  | nil =>
      rw [LogicalLine.extend] at read
      cases continued : LogicalLine.continued? console.session.state.symbols
        (pending.getD [] ++ Text.trim line) with
      | none =>
          rw [continued] at read
          cases read
          rw [feed_awaiting, continued]
          rfl
      | some kept =>
          rw [continued] at read
          cases read
          rw [feed_awaiting, continued, goOn_awaiting going, feedAll_nil_awaiting]
          simp
  | cons next rest ih =>
      rw [LogicalLine.extend] at read
      cases continued : LogicalLine.continued? console.session.state.symbols
        (pending.getD [] ++ Text.trim line) with
      | none =>
          rw [continued] at read
          cases read
          rw [feed_awaiting, continued]
          rfl
      | some kept =>
          rw [continued] at read
          dsimp only at read
          cases entry : LogicalLine.extend console.session.state.symbols
            (kept ++ Text.trim next) rest with
          | mk found prompts left =>
              rw [entry] at read
              cases read
              rw [feed_awaiting, continued, goOn_awaiting going, feedAll_cons,
                ih (some kept) next entry, precededBy_precededBy]
              rfl

theorem readLines_of_stopped {console : Console} (stopped : console.stopped = true)
    (lines : List Text) : console.readLines lines = ⟨.out [], console, lines⟩ := by
  rw [readLines, if_pos stopped]

theorem promptIfReading_of_going {console : Console} (going : console.stopped = false) :
    console.promptIfReading = .out console.session.prompt := by
  rw [promptIfReading, if_neg (by simp [going])]

theorem readLines_nil {console : Console} (going : console.stopped = false)
    (between : console.pending = none) :
    console.readLines [] = ⟨.out (console.session.prompt ++ [.char '\n']), console, []⟩ := by
  rw [readLines, if_neg (by simp [going]), promptIfReading_of_going going, feedAll,
    close_of_between between, if_neg (by simp [going])]
  rfl

/-- One turn: the prompt, the prompts for continuations, the line that is run, and what follows. -/
theorem readLines_of_read {console : Console} (going : console.stopped = false)
    (between : console.pending = none) {lines prompts unread : List Text} {line : Text}
    (found : LogicalLine.read console.session.state.symbols lines =
      ⟨some line, prompts, unread⟩) :
    console.readLines lines =
      ((console.run line).2.readLines unread).precededBy
        (.out (console.session.prompt ++ prompts.flatten) ++ (console.run line).1) := by
  cases lines with
  | nil => cases found
  | cons first rest =>
      have fed := feedAll_awaiting going none first rest found
      rw [awaiting_none between, goOn_runAndPrompt, precededBy_precededBy] at fed
      rw [readLines, if_neg (by simp [going]), fed, precededBy_precededBy,
        promptIfReading_of_going going, ← Written.append_assoc, Written.out_append_out]

theorem run_of_ok {console : Console} {line : Text} {result : Result}
    (ran : (console.session.run line).1 = .ok result) :
    console.run line =
      (⟨result.stdout, noted console.verbose (Log.line console.session line) ++ result.stderr⟩,
        { console with
          session := (console.session.run line).2
          pending := none
          exitCode := result.exitCode }) := by
  unfold run runIn
  cases both : console.session.run line with
  | mk outcome next =>
      rw [both] at ran
      cases ran
      rfl

theorem run_of_error {console : Console} {line : Text} {failure : Failure}
    (ran : (console.session.run line).1 = .error failure) :
    console.run line =
      (⟨[], noted console.verbose (Log.line console.session line)⟩,
        { console with
          session := (console.session.run line).2
          pending := none
          failure := some failure }) := by
  unfold run runIn
  cases both : console.session.run line with
  | mk outcome next =>
      rw [both] at ran
      cases ran
      rfl

/-- Holds of a transcript that consists of the given turns, which began in `console` with `lines`
left to read. -/
structure Tells (console : Console) (lines : List Text) (turns : List Turn)
    (transcript : Transcript) : Prop where
  session : transcript.console.session = console.session.afterLines (turns.map Turn.line)
  stopped : transcript.console.stopped =
    (transcript.console.session.terminated || turns.any Turn.fails)
  stdout : transcript.written.stdout = turns.flatMap Turn.stdout ++
    if transcript.console.stopped then [] else transcript.console.session.prompt ++ [.char '\n']
  stderr : transcript.written.stderr = turns.flatMap fun turn =>
    noted console.verbose (Log.line turn.session turn.line) ++ turn.stderr
  ending : Program.endingOf transcript.console =
    (turns.getLast?.map Turn.ending).getD (Program.endingOf console)
  unread : transcript.unread = (turns.getLast?.map Turn.unread).getD lines
  complete : transcript.console.stopped = true ∨ transcript.unread = []

theorem stopped_eq_false {console : Console} (unfailed : console.failure = none)
    (going : ¬console.session.terminated = true) : console.stopped = false := by
  rw [stopped, unfailed, Bool.eq_false_iff.mpr going]
  rfl

theorem Tells.of_stopped {console : Console} (terminated : console.session.terminated = true)
    (lines : List Text) : Tells console lines [] ⟨.out [], console, lines⟩ := by
  have stopped : console.stopped = true := by rw [Console.stopped, terminated, Bool.true_or]
  refine ⟨rfl, ?_, ?_, rfl, rfl, rfl, Or.inl stopped⟩
  · rw [stopped, terminated]
    rfl
  · rw [if_pos stopped]
    rfl

theorem Tells.of_exhausted {console : Console} (going : console.stopped = false) :
    Tells console [] [] ⟨.out (console.session.prompt ++ [.char '\n']), console, []⟩ := by
  refine ⟨rfl, ?_, ?_, rfl, rfl, rfl, Or.inr rfl⟩
  · have unterminated : console.session.terminated = false :=
      (Bool.or_eq_false_iff.mp going).1
    rw [going, unterminated]
    rfl
  · rw [if_neg (by simp [going])]
    rfl

/-- A turn whose line gives a result goes in front of what the console makes of the lines left. -/
theorem Tells.cons {console : Console} (unfailed : console.failure = none) {turn : Turn}
    {result : Result} {lines : List Text} {turns : List Turn} {transcript : Transcript}
    (here : turn.session = console.session) (ran : turn.outcome = .ok result)
    (later : Tells (console.run turn.line).2 turn.unread turns transcript) :
    Tells console lines (turn :: turns)
      (transcript.precededBy
        (.out (turn.session.prompt ++ turn.prompts.flatten) ++ (console.run turn.line).1)) := by
  have given : (console.session.run turn.line).1 = .ok result := by rw [← here]; exact ran
  have taken := run_of_ok given
  have succeeds : turn.fails = false := by rw [Turn.fails, ran]
  have reached : Program.endingOf (console.run turn.line).2 = turn.ending := by
    rw [taken, Program.endingOf, unfailed, Turn.ending, ran]
    rfl
  refine ⟨?_, ?_, ?_, ?_, ?_, ?_, later.complete⟩
  · refine later.session.trans ?_
    rw [taken]
    rfl
  · refine later.stopped.trans ?_
    rw [List.any_cons, succeeds, Bool.false_or]
    rfl
  · simp only [Transcript.precededBy, Written.stdout_append, Written.stdout_out, later.stdout,
      List.flatMap_cons, Turn.stdout, ran, List.append_assoc, taken]
  · simp only [Transcript.precededBy, Written.stderr_append, Written.stderr_out, later.stderr,
      List.flatMap_cons, Turn.stderr, ran, List.append_assoc, List.nil_append, here, taken]
  · refine later.ending.trans ?_
    rw [List.getLast?_cons, Option.map_some, Option.getD_some, reached, Option.getD_map]
  · refine later.unread.trans ?_
    rw [List.getLast?_cons, Option.map_some, Option.getD_some, Option.getD_map]

theorem Tells.of_failed {console : Console} {turn : Turn} {failure : Failure} (lines : List Text)
    (here : turn.session = console.session) (ran : turn.outcome = .error failure) :
    Tells console lines [turn]
      (((console.run turn.line).2.readLines turn.unread).precededBy
        (.out (turn.session.prompt ++ turn.prompts.flatten) ++ (console.run turn.line).1)) := by
  have given : (console.session.run turn.line).1 = .error failure := by rw [← here]; exact ran
  have taken := run_of_error given
  have failed : turn.fails = true := by rw [Turn.fails, ran]
  have stopped : (console.run turn.line).2.stopped = true := by
    rw [taken, Console.stopped]
    exact Bool.or_true _
  rw [readLines_of_stopped stopped]
  refine ⟨?_, ?_, ?_, ?_, ?_, rfl, Or.inl stopped⟩
  · rw [taken]
    rfl
  · refine stopped.trans ?_
    rw [List.any_cons, failed, Bool.true_or, Bool.or_true]
  · have silent : (console.run turn.line).1.stdout = [] := by rw [taken]
    simp [Transcript.precededBy, stopped, silent, Turn.stdout, ran]
  · simp [Transcript.precededBy, Turn.stderr, ran, here, taken]
  · rw [taken]
    simp [Program.endingOf, Transcript.precededBy, Turn.ending, ran, Except.map]

theorem tells_readLines {console : Console} (between : console.pending = none)
    (unfailed : console.failure = none) (lines : List Text) :
    Tells console lines (console.session.turns lines) (console.readLines lines) := by
  generalize start : console.session = session
  fun_induction Session.turns session lines generalizing console with
  | case1 session lines terminated =>
      subst start
      have stopped : console.stopped = true := by rw [Console.stopped, terminated, Bool.true_or]
      rw [readLines_of_stopped stopped]
      exact .of_stopped terminated lines
  | case2 session lines unterminated written unread exhausted =>
      subst start
      have going := stopped_eq_false unfailed unterminated
      cases lines with
      | nil =>
          rw [readLines_nil going between]
          exact .of_exhausted going
      | cons first rest =>
          obtain ⟨line, complete⟩ := LogicalLine.exists_line_extend console.session.state.symbols
            (Text.trim first) rest
          change LogicalLine.extend _ _ _ = _ at exhausted
          rw [exhausted] at complete
          cases complete
  | case3 session lines unterminated line prompts unread found turn =>
      rename_i later
      subst start
      have going := stopped_eq_false unfailed unterminated
      rw [readLines_of_read going between found]
      cases ran : turn.outcome with
      | ok result =>
          have given : (console.session.run line).1 = .ok result := ran
          have taken := run_of_ok given
          refine Tells.cons unfailed rfl ran (later (console.pending_run line) ?_ ?_)
          · rw [taken]
            exact unfailed
          · rw [taken]
            rfl
      | error failure => exact .of_failed lines rfl ran

/-- A console that reads a whole input does what its session does turn by turn. It ends in the
session that running the logical lines one after the other leaves. On the first stream each turn has
its prompt, the prompts for its continuations and its output, and one more prompt with a line end
follows exactly if the input ended first; on the second stream stand the messages of the turns. The
ending is that of the last turn, and only what stands behind its last physical line is unread. -/
theorem readAll_runs_turns (session : Session) (input : Text) :
    let lines := Text.physicalLines input
    let turns := session.turns lines
    let last := session.afterLines (turns.map Turn.line)
    let left := last.terminated || turns.any Turn.fails
    let transcript := (start session false).readAll input
    transcript.console.session = last ∧
      transcript.written.stdout =
        turns.flatMap Turn.stdout ++ (if left then [] else last.prompt ++ [.char '\n']) ∧
      transcript.written.stderr = turns.flatMap Turn.stderr ∧
      Program.endingOf transcript.console = (turns.getLast?.map Turn.ending).getD (.ok 0) ∧
      transcript.unread = (turns.getLast?.map Turn.unread).getD lines ∧
      transcript.unread <:+ lines ∧
      (left = true ∨ transcript.unread = []) ∧
      turns.length ≤ lines.length := by
  intro lines turns last left transcript
  have tells : Tells (start session false) lines turns transcript := tells_readLines rfl rfl lines
  have reached : transcript.console.session = last := tells.session
  have stopped : transcript.console.stopped = left := by
    rw [tells.stopped, reached]
  refine ⟨reached, ?_, ?_, tells.ending, tells.unread, ?_, ?_, session.length_turns_le lines⟩
  · rw [tells.stdout, stopped, reached]
  · exact tells.stderr
  · rw [tells.unread]
    exact session.suffix_turns lines
  · rw [← stopped]
    exact tells.complete

end Console

end LineShell
