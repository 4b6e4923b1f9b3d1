import LineShell.Text.Letter
import LineShell.Text.Numeral

namespace LineShell.Brace

def rangeLimit : Nat := 65536

inductive Refusal
  | notAGroup
  | tooManyDigits
  deriving DecidableEq, Repr

/-- The pieces of a text between its `..` marks, each mark taken at the leftmost place. -/
def splitAtDots : Text → List Text
  | [] => [[]]
  | [c] => [[c]]
  | c :: d :: rest =>
      if c = '.' && d = '.' then [] :: splitAtDots rest
      else match splitAtDots (d :: rest) with
        | [] => [[c]]
        | piece :: pieces => (c :: piece) :: pieces

def hasDots : Text → Bool
  | '.' :: '.' :: _ => true
  | [] => false
  | _ :: rest => hasDots rest

def isInteger (text : Text) : Bool :=
  let digits := (Numeral.takeSign text).2
  !digits.isEmpty && digits.all (·.isDigit)

def integer? (text : Text) : Option Int :=
  let (sign, digits) := Numeral.takeSign text
  if digits.length ≤ Numeral.digitLimit then some (sign * Numeral.value digits) else none

def between (low high : Int) : List Int :=
  if low ≤ high then (List.range ((high - low).toNat + 1)).map fun (n : Nat) => low + n
  else (List.range ((low - high).toNat + 1)).map fun (n : Nat) => low - n

def closeEnough (low high : Int) : Bool :=
  (high - low).natAbs < rangeLimit

def integerRange (low high : Text) : Except Refusal (List Text) :=
  match integer? low, integer? high with
  | some first, some last =>
      if closeEnough first last then .ok ((between first last).map Numeral.ofInt)
      else .error .notAGroup
  | _, _ => .error .tooManyDigits

def letterRange (low high : CodePoint) : Except Refusal (List Text) :=
  if closeEnough low.toNat high.toNat then
    .ok ((between low.toNat high.toNat).map fun n => [CodePoint.ofNat n.toNat])
  else .error .notAGroup

def range (item : Text) : Except Refusal (List Text) :=
  match splitAtDots item with
  | [low, high] =>
      if isInteger low && isInteger high then integerRange low high
      else match low, high with
        | [first], [last] =>
            if Text.isLetter first && Text.isLetter last then letterRange first last
            else .error .notAGroup
        | _, _ => .error .notAGroup
  | _ => .error .notAGroup

def item (text : Text) : Except Refusal (List Text) :=
  if hasDots text then range text else .ok [text]

/-- The alternatives of a group, those of its items one after the other. The first item that has
none refuses the whole group. -/
def alternatives (content : Text) : Except Refusal (List Text) :=
  let items := Text.splitWhere (· = ',') content
  if items.length = 1 && !hasDots content then .error .notAGroup
  else (items.mapM item).map List.flatten

end LineShell.Brace
