import LineShell.Brace.Item
import LineShell.Brace.Piece

namespace LineShell.Brace

def resultLimit : Nat := 65536

inductive Obstacle
  | unclosed
  | tooManyLines
  | tooManyDigits
  deriving DecidableEq, Repr

/-- The choices that each piece offers, `count` lines being offered by the pieces before. A group
that is none offers its own text; the even run before a group is halved. -/
def choices (count : Nat) : List Piece → Except Obstacle (List (List Text))
  | [] => .ok []
  | .literal text :: rest => (choices count rest).map ([text] :: ·)
  | .unclosed _ _ :: _ => .error .unclosed
  | .group run content :: rest =>
      match alternatives content with
      | .ok texts =>
          if count * texts.length > resultLimit then .error .tooManyLines
          else (choices (count * texts.length) rest).map
            (texts.map (Escape.backslashes (run / 2) ++ ·) :: ·)
      | .error .notAGroup => (choices count rest).map ([(Piece.group run content).text] :: ·)
      | .error .tooManyDigits => .error .tooManyDigits

/-- Every way of taking one text from each list, joined; the first list varies slowest. -/
def combinations : List (List Text) → List Text
  | [] => [[]]
  | texts :: rest =>
      let endings := combinations rest
      texts.flatMap fun text => endings.map (text ++ ·)

def expand (text : Text) : Except Numeral.TooLong (List Text) :=
  match choices 1 (pieces text) with
  | .ok lists => .ok (combinations lists)
  | .error .tooManyDigits => .error .tooLong
  | .error _ => .ok [text]

end LineShell.Brace
