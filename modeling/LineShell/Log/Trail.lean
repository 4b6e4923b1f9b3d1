import LineShell.Log.Note
import LineShell.Session

namespace LineShell.Log

def bracePieces (text : Text) (count : Nat) : List Brace.Piece → List Note
  | [] => []
  | .literal _ :: rest => bracePieces text count rest
  | .unclosed _ behind :: _ => [.unbalancedBrace (text.length - behind.length - 1) text]
  | .group _ content :: rest =>
      match Brace.alternatives content with
      | .ok texts =>
          if count * texts.length > Brace.resultLimit then [.tooManyLines text]
          else bracePieces text (count * texts.length) rest
      | .error .notAGroup =>
          .literalGroup (.char '{' :: content ++ [.char '}']) :: bracePieces text count rest
      | .error .tooManyDigits => []

def storedDefaults (before after : Store) : List Note :=
  (after.own.entries.drop before.own.entries.length).map fun entry =>
    .storedDefault entry.1 entry.2

/-- The expressions left as they were in a text, from right to left. `before` is the text in front
of it, read backwards, which ends with `run` backslashes. -/
def literalArithmetic (before : Text) (run : Nat) : Text → List Note
  | [] => []
  | c :: rest =>
      if c = '\\' then literalArithmetic (c :: before) (run + 1) rest
      else
        let tail := Arithmetic.reduceAfter 0 rest
        let left := c = '$' && !Escape.escapes run && [.char '(', .char '('].isPrefixOf tail &&
          (Arithmetic.valueAt? tail).isNone
        literalArithmetic (c :: before) 0 rest ++
          if left then [.literalArithmetic before.length (before.reverse ++ c :: tail)] else []

def expansionOfOne (history : List Text) (store : Store) (line : Text) : List Note :=
  let replaced := Reference.replace (History.resolve history line) store
  storedDefaults store replaced.2 ++ literalArithmetic [] 0 replaced.1

/-- A line that is refused leaves the defaults that it stored by then, and ends the expansion. -/
def expansionOfEach (history : List Text) (store : Store) : List Text → List Note
  | [] => []
  | line :: rest =>
      match Expansion.refused? history store [line] with
      | some (_, reached) => storedDefaults store reached
      | none =>
          expansionOfOne history store line ++
            expansionOfEach history (Expansion.expandOne history store line).2 rest

def expansion (state : State) (line : Text) : List Note :=
  bracePieces line 1 (Brace.pieces line) ++
    match Brace.expand line with
    | .error _ => []
    | .ok lines =>
        expansionOfEach state.history state.store lines ++
          match Expansion.expand state line with
          | .ok (texts, _) => [.expandedLine line texts]
          | .error _ => []

def step (registry : Registry) (step : Step) : List Note :=
  match CommandLine.read? step.command with
  | none => []
  | some cut =>
      match Recognized.of registry step.command cut, step.outcome with
      | .assignment name value, _ => [.assigned name value]
      | .unknown, _ => [.unknownCommand cut.name]
      | .builtin .exit, .exited result => [.exitRequested result.exitCode]
      | _, _ => []

def line (session : Session) (line : Text) : List Note :=
  let ran := runLine session.settings.registry session.state line
  expansion session.state line ++
    ran.steps.flatMap (step session.settings.registry) ++
    match ran.outcome with
    | .exited result => [.shellLeft result.exitCode]
    | _ => []

end LineShell.Log
