import LineShell.Text.Basic

namespace LineShell.Escape

def backslashes (n : Nat) : Text :=
  List.replicate n (.char '\\')

def runAtEnd (text : Text) : Nat :=
  (text.reverse.takeWhile (· = .char '\\')).length

/-- The backslash run directly before a position; none for a position past the end. A position
before the text has nothing before it. -/
def runBefore? (text : Text) (position : Int) : Option Nat :=
  if position ≤ text.length then some (runAtEnd (text.take position.toNat)) else none

def escapes (run : Nat) : Bool :=
  run % 2 = 1

/-- Holds of a text that begins with what an expansion looks for: a brace, a dollar or `!!`. -/
def startsTrigger : Text → Bool
  | '{' :: _ => true
  | '$' :: _ => true
  | '!' :: '!' :: _ => true
  | _ => false

def stripAfter (run : Nat) : Text → Text
  | [] => backslashes run
  | c :: rest =>
      if c = '\\' then stripAfter (run + 1) rest
      else backslashes (if startsTrigger (c :: rest) then run / 2 else run) ++
        c :: stripAfter 0 rest

/-- The text without the backslashes that escape a trigger; all other backslashes stay. -/
def strip (text : Text) : Text :=
  stripAfter 0 text

end LineShell.Escape
