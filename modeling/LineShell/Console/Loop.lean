import LineShell.Console.LogicalLine
import LineShell.Log.Trail

/-!
The console: a session that is fed physical lines one at a time. It answers each with what is to be
written, so the same steps serve a terminal and a text that is known in advance.
-/

namespace LineShell

structure Written where
  stdout : Text
  stderr : Text
  deriving DecidableEq, Repr

def Written.out (stdout : Text) : Written := ⟨stdout, []⟩

def Written.append (first second : Written) : Written :=
  ⟨first.stdout ++ second.stdout, first.stderr ++ second.stderr⟩

instance : Append Written := ⟨Written.append⟩

structure Console where
  session : Session
  pending : Option Text
  exitCode : Int
  failure : Option Failure
  verbose : Bool

namespace Console

def start (session : Session) (verbose : Bool) : Console :=
  ⟨session, none, 0, none, verbose⟩

def stopped (console : Console) : Bool :=
  console.session.terminated || console.failure.isSome

def promptIfReading (console : Console) : Written :=
  .out (if console.stopped then [] else console.session.prompt)

def noted (verbose : Bool) (notes : List Note) : Text :=
  if verbose then Note.records notes else []

def runIn (session : Session) (verbose : Bool) (line : Text) :
    Written × Except Failure Int × Session :=
  let notes := noted verbose (Log.line session line)
  match session.run line with
  | (.ok result, next) => (⟨result.stdout, notes ++ result.stderr⟩, .ok result.exitCode, next)
  | (.error failure, next) => (⟨[], notes⟩, .error failure, next)

def run (console : Console) (line : Text) : Written × Console :=
  let ran := runIn console.session console.verbose line
  match ran.2.1 with
  | .ok exitCode =>
      (ran.1, { console with session := ran.2.2, pending := none, exitCode := exitCode })
  | .error failure =>
      (ran.1, { console with session := ran.2.2, pending := none, failure := some failure })

def runAndPrompt (console : Console) (line : Text) : Written × Console :=
  let ran := console.run line
  (ran.1 ++ ran.2.promptIfReading, ran.2)

def feed (console : Console) (line : Text) : Written × Console :=
  let symbols := console.session.state.symbols
  let text := console.pending.getD [] ++ Text.trim line
  match LogicalLine.continued? symbols text with
  | some kept =>
      (.out (LogicalLine.continuationPrompt symbols), { console with pending := some kept })
  | none => console.runAndPrompt text

/-- Ends the input: a line that was to be continued is run as it is, and the prompt that is then
waiting is followed by a line end. -/
def close (console : Console) : Written × Console :=
  let ran : Written × Console := match console.pending with
    | some text => console.runAndPrompt text
    | none => (.out [], console)
  (ran.1 ++ .out (if ran.2.stopped then [] else ['\n']), ran.2)

structure Transcript where
  written : Written
  console : Console
  unread : List Text

def feedAll (console : Console) : List Text → Transcript
  | [] =>
      let closed := console.close
      ⟨closed.1, closed.2, []⟩
  | line :: rest =>
      let fed := console.feed line
      if fed.2.stopped then ⟨fed.1, fed.2, rest⟩
      else
        let others := feedAll fed.2 rest
        ⟨fed.1 ++ others.written, others.console, others.unread⟩

def readAll (console : Console) (input : Text) : Transcript :=
  let lines := Text.physicalLines input
  if console.stopped then ⟨.out [], console, lines⟩
  else
    let transcript := console.feedAll lines
    { transcript with written := console.promptIfReading ++ transcript.written }

end Console

end LineShell
