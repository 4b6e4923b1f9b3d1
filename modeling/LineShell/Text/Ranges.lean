import LineShell.Text.CodePoint

namespace LineShell.Text

/-- Disjoint ranges of code points in ascending order, each as its first and its last member. -/
abbrev Ranges := List (Nat × Nat)

def Ranges.contains : Ranges → Nat → Bool
  | [], _ => false
  | (first, last) :: rest, n => if n < first then false else n ≤ last || Ranges.contains rest n

end LineShell.Text
