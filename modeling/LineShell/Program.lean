import LineShell.Console.Loop
import LineShell.Invocation

namespace LineShell.Program

inductive Beginning
  | done (written : Written) (ending : Except Failure Int)
  | reading (written : Written) (console : Console)

def session (surroundings : Surroundings) : Session :=
  Session.start Settings.standard surroundings

def begin (surroundings : Surroundings) : Invocation → Beginning
  | .help => .done (.out Invocation.helpText) (.ok 0)
  | .misuse message => .done ⟨[], Invocation.refusal message⟩ (.ok 2)
  | .lostCommand => .done ⟨[], []⟩ (.error .lostCommand)
  | .shell (some command) verbose =>
      let ran := Console.runIn (session surroundings) verbose command
      .done ran.1 ran.2.1
  | .shell none verbose =>
      let console := Console.start (session surroundings) verbose
      let opened : Written :=
        ⟨[], Console.noted verbose [.sessionStarted console.session.state.directory]⟩
      .reading (opened ++ console.promptIfReading) console

def endingOf (console : Console) : Except Failure Int :=
  match console.failure with
  | some failure => .error failure
  | none => .ok console.exitCode

/-- How the program went: what it wrote, its exit code or failure, and the input it did not read. -/
structure Transcript where
  written : Written
  ending : Except Failure Int
  unread : Text

def run (surroundings : Surroundings) (words : List Text) (input : Text) : Transcript :=
  match begin surroundings (Invocation.read words) with
  | .done written ending => ⟨written, ending, input⟩
  | .reading written console =>
      let transcript := console.feedAll (Text.physicalLines input)
      ⟨written ++ transcript.written, endingOf transcript.console, transcript.unread.flatten⟩

end LineShell.Program
