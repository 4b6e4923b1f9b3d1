import LineShell.Text.Blank
import LineShell.Text.Word

namespace LineShell

structure CommandLine where
  name : Text
  argument : Option Text
  deriving DecidableEq, Repr

namespace CommandLine

def read? (line : Text) : Option CommandLine :=
  let trimmed := Text.trimLeft line
  let name := trimmed.takeWhile (!Text.isBlank ·)
  let argument := Text.trim (trimmed.dropWhile (!Text.isBlank ·))
  if name.isEmpty then none
  else some ⟨name, if argument.isEmpty then none else some argument⟩

def text (line : CommandLine) : Text :=
  line.argument.getD []

def words (line : CommandLine) : List Text :=
  Text.words line.text

/-- The name and the value of a line of the form `name=value`, if the value starts with no blank. -/
def assignment? (line : Text) : Option (Text × Text) :=
  match Text.takeName? line with
  | some (name, '=' :: value) =>
      match value with
      | [] => some (name, [])
      | c :: _ => if Text.isBlank c then none else some (name, value)
  | _ => none

end CommandLine

end LineShell
