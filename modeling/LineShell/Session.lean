import LineShell.Execution

namespace LineShell

structure Surroundings where
  environment : Bindings
  directory : Text
  deriving DecidableEq

structure Settings where
  bindings : Bindings
  directory : Text
  symbols : Symbols
  registry : Registry

def Settings.standard : Settings :=
  ⟨Bindings.empty, [], Symbols.standard, Registry.standard⟩

def Settings.state (settings : Settings) (surroundings : Surroundings) : State :=
  State.start ⟨settings.bindings, surroundings.environment⟩ []
    (if settings.directory.isEmpty then surroundings.directory else settings.directory) 0
    settings.symbols

structure Session where
  settings : Settings
  surroundings : Surroundings
  state : State
  terminated : Bool

namespace Session

def start (settings : Settings) (surroundings : Surroundings) : Session :=
  ⟨settings, surroundings, settings.state surroundings, false⟩

def reset (session : Session) : Session :=
  start session.settings session.surroundings

def set (session : Session) (name value : Text) : Session :=
  { session with
    state := { session.state with store := session.state.store.assign name value } }

def unset (session : Session) (name : Text) : Session :=
  { session with
    state := { session.state with store := session.state.store.unset name } }

/-- The part of a path behind its last slash, slashes at its end left out; the path itself if that
is empty. -/
def directoryName (path : Text) : Text :=
  let name := ((path.reverse.dropWhile (· = .char '/')).takeWhile (· ≠ .char '/')).reverse
  if name.isEmpty then path else name

def prompt (session : Session) : Text :=
  .char '$' :: directoryName session.state.directory ++ session.state.symbols.prompt ++ [.char ' ']

/-- Runs a line. An exit gives a result like any other and leaves the session terminated. -/
def run (session : Session) (line : Text) : Except Failure Result × Session :=
  let ran := runLine session.settings.registry session.state line
  match ran.outcome with
  | .returned result => (.ok result, { session with state := ran.state })
  | .exited result => (.ok result, { session with state := ran.state, terminated := true })
  | .failed failure => (.error failure, { session with state := ran.state })

end Session

end LineShell
