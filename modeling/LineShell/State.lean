import LineShell.History
import LineShell.Symbols

namespace LineShell

structure State where
  store : Store
  history : List Text
  directory : Text
  lastExitCode : Int
  symbols : Symbols
  deriving DecidableEq

namespace State

def setSymbol (state : State) (name : SymbolName) (symbol : Text) : State :=
  { state with
    store := state.store.assign name.shownIn symbol
    symbols := state.symbols.set name symbol }

/-- Brings a symbol and its variable into agreement. A variable that holds a single character sets
the symbol; any other is set to it. -/
def alignSymbol (state : State) (name : SymbolName) : State :=
  match state.store.own.get? name.shownIn with
  | some [c] => { state with symbols := state.symbols.set name [c] }
  | _ => { state with store := state.store.assign name.shownIn (state.symbols.get name) }

def start (store : Store) (history : List Text) (directory : Text) (lastExitCode : Int)
    (symbols : Symbols) : State :=
  SymbolName.all.foldl alignSymbol
    { store
      history := if history.isEmpty then [[]] else history
      directory
      lastExitCode
      symbols }

def remember (state : State) (line : Text) : State :=
  { state with history := History.add state.history line }

end State

end LineShell
