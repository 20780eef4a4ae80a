import Monkey.Arena.Describe
import Monkey.Main
import Monkey.Program.Equality
import Monkey.Proofs.Grammar.Soundness
import Monkey.Proofs.Grammar.Budget
import Monkey.Proofs.Grammar.Completeness
import Monkey.Proofs.Grammar.Recognition
import Monkey.Proofs.Grammar.Recovery
import Monkey.Proofs.Printing.Canonical
import Monkey.Proofs.Printing.Lexing
import Monkey.Proofs.Printing.RoundTrip
import Monkey.Proofs.Printing.Sources
import Monkey.Proofs.Lexing.Factorization
import Monkey.Proofs.Lexing.Scanner
import Monkey.Proofs.Arena.Collection
import Monkey.Proofs.Arena.Tidy
import Monkey.Proofs.Arena.Sweep
import Monkey.Proofs.Evaluation.Comparison
import Monkey.Proofs.Evaluation.Policy
import Monkey.Proofs.Evaluation.Reuse
import Monkey.Proofs.Evaluation.Signals
import Monkey.Proofs.Evaluation.Noninterference
import Monkey.Proofs.Evaluation.Sequencing
import Monkey.Proofs.Evaluation.Arrival
import Monkey.Proofs.Evaluation.Balance
import Monkey.Proofs.Evaluation.Termination
import Monkey.Proofs.Evaluation.Quiet
import Monkey.Proofs.Session
import Monkey.Proofs.Session.Stability
import Monkey.Proofs.Console.Undisturbed
import Monkey.Proofs.Console.Modes
import Monkey.Proofs.Evaluation.Depth
import Monkey.Proofs.Evaluation.Writes
import Monkey.Proofs.Evaluation.Tokens
import Monkey.Proofs.Session.Confinement
import Monkey.Proofs.Grammar.Lockstep
import Monkey.Proofs.Grammar.Locality
import Monkey.Proofs.Grammar.Reporting
import Monkey.Proofs.Grammar.Braces
import Monkey.Proofs.Grammar.Progress
import Monkey.Proofs.Grammar.Provenance
import Monkey.Proofs.Arena.Shadowing
import Monkey.Proofs.Evaluation.Operators
import Monkey.Proofs.Evaluation.Arithmetic
import Monkey.Proofs.Console.Cutting
import Monkey.Proofs.Grammar.Provenance
import Monkey.Proofs.Lexing.Scanner
import Monkey.Proofs.Text.Packing
import Monkey.Proofs.Text.Packing
