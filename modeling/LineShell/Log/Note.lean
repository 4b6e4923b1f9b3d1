import LineShell.Brace.Expansion
import LineShell.Text.Quoted

namespace LineShell

inductive Note.Source
  | program
  | shell
  | expansion
  | interpreter
  | exitCommand
  deriving DecidableEq, Repr

inductive Note
  | unbalancedBrace (position : Nat) (text : Text)
  | literalGroup (group : Text)
  | tooManyLines (text : Text)
  | storedDefault (name value : Text)
  | literalArithmetic (position : Nat) (text : Text)
  | expandedLine (line : Text) (texts : List Text)
  | assigned (name value : Text)
  | unknownCommand (name : Text)
  | exitRequested (code : Int)
  | shellLeft (code : Int)
  | sessionStarted (directory : Text)
  deriving DecidableEq, Repr

namespace Note

def Source.name : Source → Text
  | program => "myshell.__main__".text
  | shell => "myshell.shell".text
  | expansion => "myshell.interpreter.expansion".text
  | interpreter => "myshell.interpreter.interpreter".text
  | exitCommand => "myshell.interpreter.builtins.control".text

def source : Note → Source
  | unbalancedBrace _ _ | literalGroup _ | tooManyLines _ | storedDefault _ _
  | literalArithmetic _ _ | expandedLine _ _ => .expansion
  | assigned _ _ | unknownCommand _ => .interpreter
  | exitRequested _ => .exitCommand
  | shellLeft _ => .shell
  | sessionStarted _ => .program

def message : Note → Text
  | unbalancedBrace position text =>
      "unbalanced brace at ".text ++ Numeral.digits position ++ " in ".text ++ Text.quoted text
  | literalGroup group => "leaving brace group ".text ++ Text.quoted group ++ " literal".text
  | tooManyLines text =>
      "brace expansion of ".text ++ Text.quoted text ++ " exceeds ".text ++
        Numeral.digits Brace.resultLimit ++ " lines".text
  | storedDefault name value =>
      "assigning default ".text ++ Text.quoted value ++ " to ".text ++ name
  | literalArithmetic position text =>
      "leaving arithmetic expression at ".text ++ Numeral.digits position ++
        " literal in ".text ++ Text.quoted text
  | expandedLine line texts =>
      "expanded ".text ++ Text.quoted line ++ " into ".text ++ Text.quotedList texts
  | assigned name value => "assigning ".text ++ Text.quoted value ++ " to ".text ++ name
  | unknownCommand name => "unknown command ".text ++ Text.quoted name
  | exitRequested code => "exit requested with code ".text ++ Numeral.ofInt code
  | shellLeft code => "shell exiting with code ".text ++ Numeral.ofInt code
  | sessionStarted directory => "starting interactive session in ".text ++ directory

def record (note : Note) : Text :=
  "DEBUG ".text ++ note.source.name ++ ": ".text ++ note.message ++ [.char '\n']

def records (notes : List Note) : Text :=
  notes.flatMap record

end Note

end LineShell
