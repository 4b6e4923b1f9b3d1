import LineShell.Escape

namespace LineShell.History

def last (history : List Text) : Text :=
  history.getLastD []

/-- Puts `entry` in place of every unescaped `!!` of a text that `run` backslashes precede. -/
def resolveAfter (entry : Text) (run : Nat) : Text → Text
  | [] => Escape.backslashes run
  | [c] => if c = '\\' then Escape.backslashes (run + 1) else Escape.backslashes run ++ [c]
  | c :: d :: rest =>
      if c = '\\' then resolveAfter entry (run + 1) (d :: rest)
      else if c = '!' && d = '!' && !Escape.escapes run then
        Escape.backslashes (run / 2) ++ entry ++ resolveAfter entry 0 rest
      else Escape.backslashes run ++ c :: resolveAfter entry 0 (d :: rest)

def resolve (history : List Text) (text : Text) : Text :=
  resolveAfter (last history) 0 text

/-- The history after a line was entered: the line is kept with its references resolved. -/
def add (history : List Text) (line : Text) : List Text :=
  history ++ [resolve history line]

end LineShell.History
