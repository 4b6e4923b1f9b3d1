import LineShell.Arithmetic.Failure
import LineShell.Arithmetic.Literal
import LineShell.Text.Blank

namespace LineShell.Arithmetic

inductive Lexeme
  | number (value : Rat)
  | plus
  | minus
  | times
  | over
  | remainder
  | caret
  | opening
  | closing
  deriving DecidableEq, Repr

structure Token where
  lexeme : Lexeme
  position : Nat
  deriving DecidableEq, Repr

namespace Token

def operator? : CodePoint → Option Lexeme
  | '+' => some .plus
  | '-' => some .minus
  | '*' => some .times
  | '/' => some .over
  | '%' => some .remainder
  | '^' => some .caret
  | '(' => some .opening
  | ')' => some .closing
  | _ => none

def readFrom (position : Nat) (text : Text) : Except Failure (List Token) :=
  match text with
  | [] => .ok []
  | c :: rest =>
      if Text.isBlank c then readFrom (position + 1) rest
      else match operator? c with
        | some lexeme => (readFrom (position + 1) rest).map (⟨lexeme, position⟩ :: ·)
        | none =>
            match _found : Literal.take? (c :: rest) with
            | none => .error (.malformed (.invalidCharacter c position))
            | some (literal, after) =>
                match literal.value? with
                | none => .error .tooManyDigits
                | some value =>
                    (readFrom (position + literal.text.length) after).map
                      (⟨.number value, position⟩ :: ·)
termination_by text.length
decreasing_by
  · simp only [List.length_cons]
    omega
  · simp only [List.length_cons]
    omega
  · exact Literal.length_of_take? _found

def read (text : Text) : Except Failure (List Token) :=
  readFrom 0 text

/-- The lexemes with their positions, followed by the mark of the end, which is no lexeme. -/
def listing (text : Text) (tokens : List Token) : List (Option Lexeme × Nat) :=
  tokens.map (fun token => (some token.lexeme, token.position)) ++ [(none, text.length)]

end Token

end LineShell.Arithmetic
