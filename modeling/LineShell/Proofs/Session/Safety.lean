import LineShell.Proofs.Brace.Refusal
import LineShell.Proofs.FanOut
import LineShell.Proofs.Session.Course

namespace LineShell.Session

end LineShell.Session
