import LineShell.Symbols
import LineShell.Text.Blank

namespace LineShell.LogicalLine

def continued? (symbols : Symbols) (text : Text) : Option Text :=
  if (.char ' ' :: symbols.moreLines).isSuffixOf text then
    some (text.take (text.length - symbols.moreLines.length))
  else none

def continuationPrompt (symbols : Symbols) : Text :=
  symbols.multiline ++ [.char ' ']

structure Entry where
  line : Option Text
  written : List Text
  unread : List Text
  deriving DecidableEq, Repr

/-- Reads on behind the parts of a logical line read so far. At the end of input the line is
complete as it is. -/
def extend (symbols : Symbols) (text : Text) (lines : List Text) : Entry :=
  match continued? symbols text with
  | none => ⟨some text, [], lines⟩
  | some kept =>
      match lines with
      | [] => ⟨some kept, [continuationPrompt symbols], []⟩
      | line :: rest =>
          let entry := extend symbols (kept ++ Text.trim line) rest
          { entry with written := continuationPrompt symbols :: entry.written }

def read (symbols : Symbols) : List Text → Entry
  | [] => ⟨none, [], []⟩
  | line :: rest => extend symbols (Text.trim line) rest

end LineShell.LogicalLine
