import LineShell.Command.Utility
import LineShell.Text.Case
import LineShell.Text.Numeral

namespace LineShell

inductive Builtin
  | exit
  | help
  | history
  | symbol
  deriving DecidableEq, Repr

namespace Builtin

def all : List Builtin := [exit, help, history, symbol]

def name : Builtin → Text
  | exit => "exit".text
  | help => "help".text
  | history => "history".text
  | symbol => "symbol".text

def ofName? (name : Text) : Option Builtin :=
  all.find? fun builtin => builtin.name = name

def complaint (builtin : Builtin) (message : Text) : Result :=
  .failure ("myshell: ".text ++ builtin.name ++ ": ".text ++ message ++ [.char '\n']) 1

def notANumber (builtin : Builtin) (word : Text) : Result :=
  builtin.complaint (word ++ ": numeric argument required".text)

/-- Exits with the number given, reduced modulo 256, or with the exit code of the last command. -/
def runExit (state : State) (line : CommandLine) : Outcome :=
  match line.words with
  | [] => .exited ⟨[], [], state.lastExitCode⟩
  | [word] =>
      match Numeral.toInt? word with
      | some code => .exited ⟨[], [], code.emod 256⟩
      | none => .returned (exit.notANumber word)
  | _ => .returned (exit.complaint "too many arguments".text)

def commandNames (registry : Registry) : List Text :=
  Text.sorted (all.map name ++ registry.map Prod.fst).eraseDups

def runHelp (registry : Registry) (line : CommandLine) : Result :=
  match line.words with
  | [] => .success (Text.asLines (commandNames registry))
  | word :: _ =>
      let key := Text.lower word
      if (ofName? key).isSome then .success (key ++ " is a shell builtin\n".text)
      else if (registry.lookup key).isSome then .success (key ++ " is a command\n".text)
      else help.complaint ("no help topics match '".text ++ word ++ "'".text)

def flushRight (width n : Nat) : Text :=
  let digits := Numeral.digits n
  List.replicate (width - digits.length) (.char ' ') ++ digits

def numberedEntries (history : List Text) : List (Nat × Text) :=
  (history.drop 1).zipIdx 1 |>.map fun (entry, number) => (number, entry)

/-- The listing of some numbered entries, in which every number is as wide as the largest one. -/
def historyListing (history : List Text) (entries : List (Nat × Text)) : Text :=
  let width := (Numeral.digits (history.length - 1)).length
  Text.asLines (entries.map fun (number, entry) => flushRight width number ++ "  ".text ++ entry)

def runHistory (state : State) (line : CommandLine) : Result :=
  let entries := numberedEntries state.history
  match line.words with
  | [] => .success (historyListing state.history entries)
  | word :: _ =>
      match Numeral.toInt? word with
      | some count =>
          .success (historyListing state.history (entries.drop (entries.length - count.toNat)))
      | none => history.notANumber word

def symbolLine (name : SymbolName) (shown : Text) : Text :=
  name.shownIn ++ " = '".text ++ shown ++ "'".text

def symbolLines (store : Store) : List SymbolName → Except Failure (List Text)
  | [] => .ok []
  | name :: rest =>
      match store.own.get? name.shownIn with
      | none => .error (.symbolNotShown name)
      | some shown =>
          match symbolLines store rest with
          | .ok lines => .ok (symbolLine name shown :: lines)
          | .error failure => .error failure

def showSymbols (store : Store) (names : List SymbolName) : Effect :=
  match symbolLines store names with
  | .ok lines => .returning (.success (Text.asLines lines))
  | .error failure => .failing failure

def changeSymbol (store : Store) (name : SymbolName) (symbol : Text) : Effect :=
  match store.own.get? name.shownIn with
  | none => .failing (.symbolNotShown name)
  | some shown =>
      ⟨.returned (.success ("Symbol for ".text ++ name.shownIn ++ " changed from '".text ++
          shown ++ "' to '".text ++ symbol ++ "'\n".text)),
        .setSymbol name symbol⟩

def runSymbol (state : State) (line : CommandLine) : Effect :=
  match line.words with
  | [] => showSymbols state.store SymbolName.all
  | word :: arguments =>
      match SymbolName.ofVariable? (Text.upper word) with
      | none => .returning (symbol.complaint (word ++ ": unknown symbol name".text))
      | some name =>
          match arguments with
          | [] => showSymbols state.store [name]
          | [[c]] => changeSymbol state.store name [c]
          | _ => .returning (symbol.complaint "the symbol must be a single character".text)

def effect (builtin : Builtin) (registry : Registry) (state : State) (line : CommandLine) :
    Effect :=
  match builtin with
  | .exit => ⟨runExit state line, .nothing⟩
  | .help => .returning (runHelp registry line)
  | .history => .returning (runHistory state line)
  | .symbol => runSymbol state line

end Builtin

end LineShell
