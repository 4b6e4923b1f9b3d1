import LineShell.Text.Basic
import LineShell.Text.Printable

namespace LineShell.Text

def singleQuote : CodePoint := '\x27'

def doubleQuote : CodePoint := '\x22'

def hexDigits : (width n : Nat) → Text
  | 0, _ => []
  | width + 1, n => hexDigits width (n / 16) ++ [.char (Nat.digitChar (n % 16))]

def quotedCharacter (quote c : CodePoint) : Text :=
  if c = quote || c = '\\' then ['\\', c]
  else if c = '\n' then ['\\', 'n']
  else if c = '\r' then ['\\', 'r']
  else if c = '\t' then ['\\', 't']
  else if isPrintable c then [c]
  else if c.toNat < 0x100 then '\\' :: 'x' :: hexDigits 2 c.toNat
  else if c.toNat < 0x10000 then '\\' :: 'u' :: hexDigits 4 c.toNat
  else '\\' :: 'U' :: hexDigits 8 c.toNat

/-- The quote that spares most escapes: double only for a text with single quotes and no double. -/
def quoteFor (text : Text) : CodePoint :=
  if singleQuote ∈ text && !(doubleQuote ∈ text) then doubleQuote else singleQuote

def quoted (text : Text) : Text :=
  let quote := quoteFor text
  quote :: text.flatMap (quotedCharacter quote) ++ [quote]

def quotedList (texts : List Text) : Text :=
  .char '[' :: join ", ".text (texts.map quoted) ++ [.char ']']

end LineShell.Text
