import LineShell.Main
import LineShell.Proofs.Arithmetic.Partition
import LineShell.Proofs.Arithmetic.ReadBack
import LineShell.Proofs.Arithmetic.Remainder
import LineShell.Proofs.Arithmetic.Size
import LineShell.Proofs.Bounds
import LineShell.Proofs.Brace.Group
import LineShell.Proofs.Brace.Unclosed
import LineShell.Proofs.Command.Echo
import LineShell.Proofs.Command.Frame
import LineShell.Proofs.Command.NamedValues
import LineShell.Proofs.Console.Joining
import LineShell.Proofs.Console.Leaving
import LineShell.Proofs.History.MarkRuns
import LineShell.Proofs.Naming
import LineShell.Proofs.Padding.Line
import LineShell.Proofs.Session.Safety
import LineShell.Proofs.Session.Symbols
import LineShell.Proofs.Template
import LineShell.Proofs.Values
