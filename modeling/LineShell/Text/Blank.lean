import LineShell.Text.Basic
import LineShell.Text.Ranges

namespace LineShell.Text

/-- The code points of the white space of all scripts, the four information separators included. -/
def blankRanges : Ranges :=
  [(0x09, 0x0D), (0x1C, 0x20), (0x85, 0x85), (0xA0, 0xA0), (0x1680, 0x1680), (0x2000, 0x200A),
   (0x2028, 0x2029), (0x202F, 0x202F), (0x205F, 0x205F), (0x3000, 0x3000)]

def isBlank (c : CodePoint) : Bool :=
  blankRanges.contains c.toNat

def allBlank (text : Text) : Bool :=
  text.all isBlank

def trimLeft (text : Text) : Text :=
  text.dropWhile isBlank

def trimRight (text : Text) : Text :=
  (text.reverse.dropWhile isBlank).reverse

def trim (text : Text) : Text :=
  trimRight (trimLeft text)

def words (text : Text) : List Text :=
  (splitWhere isBlank text).filter (!·.isEmpty)

end LineShell.Text
