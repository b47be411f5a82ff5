import Formula.Main
import Formula.Session
import Formula.Proofs.Grammar.Refusal
import Formula.Proofs.Scanning.Places
import Formula.Proofs.Printing.RoundTrip
import Formula.Proofs.Evaluation.Trace
import Formula.Proofs.Errors.Evaluation
import Formula.Proofs.Twins.Evaluation
import Formula.Proofs.Evaluation.Congruence
import Formula.Proofs.Evaluation.Answers
import Formula.Proofs.Evaluation.Typing
import Formula.Proofs.Grammar.Positions
import Formula.Proofs.Scanning.Spacing
import Formula.Proofs.Conversion.Paths
import Formula.Proofs.Evaluation.Chains
import Formula.Proofs.Evaluation.Substitution
import Formula.Proofs.Grammar.Precedence
import Formula.Proofs.Scanning.Faults
import Formula.Proofs.Scanning.Subtraction
import Formula.Proofs.Errors.Location
import Formula.Proofs.Conversion.Integers
import Formula.Proofs.Conversion.Results
import Formula.Proofs.Operators.Comparison
import Formula.Proofs.Operators.Logic
import Formula.Proofs.Operators.Bitwise
import Formula.Proofs.Operators.IntegerOrder
import Formula.Proofs.Library.Rounding
import Formula.Proofs.Library.Extremes
import Formula.Proofs.Cli.Assignments
import Formula.Proofs.Grammar.Progress
