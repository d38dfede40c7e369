import Reckoner.Datum
import Reckoner.Decimal.Reading
import Reckoner.Expression
import Reckoner.Session
import Reckoner.Proofs.PostOrder.Feeding
import Reckoner.Proofs.PostOrder.Written
import Reckoner.Proofs.PostOrder.Positions
import Reckoner.Proofs.Text.Classes
import Reckoner.Proofs.Token.Reading
import Reckoner.Proofs.Expression.Reading
import Reckoner.Proofs.Token.Lexemes
import Reckoner.Proofs.Evaluation.Outcome
import Reckoner.Proofs.Evaluation.Positions
import Reckoner.Proofs.Expression.Execution
import Reckoner.Proofs.Expression.Meaning
import Reckoner.Proofs.Session.Calculation
import Reckoner.Proofs.Session.History
import Reckoner.Proofs.Fault.Caught
import Reckoner.Proofs.Sorting.Permutation
import Reckoner.Proofs.Statistics.Traps
import Reckoner.Proofs.Builtin.Factorials
import Reckoner.Proofs.Builtin.Traps
import Reckoner.Proofs.Evaluation.Traps
import Reckoner.Proofs.PostOrder.Members
import Reckoner.Proofs.Session.Traps
import Reckoner.Proofs.Token.Nesting
import Reckoner.Proofs.Token.Scanned
import Reckoner.Proofs.PostOrder.Calls
import Reckoner.Proofs.Evaluation.Heights
import Reckoner.Proofs.Session.Arguments
import Reckoner.Proofs.Session.Infix
import Reckoner.Proofs.Session.Recall
import Reckoner.Proofs.Builtin.Faults
import Reckoner.Proofs.Evaluation.Faults
import Reckoner.Proofs.Evaluation.Shape
import Reckoner.Proofs.PostOrder.Acceptance
import Reckoner.Proofs.Session.Vocabulary
import Reckoner.Proofs.Sorting.Naturality
import Reckoner.Proofs.Fault.Related
import Reckoner.Proofs.Builtin.Related
import Reckoner.Proofs.Evaluation.Related
import Reckoner.Proofs.Session.Noninterference
import Reckoner.Proofs.Decimal.Integer
import Reckoner.Proofs.Session.Integers
import Reckoner.Proofs.Token.Lossless
import Reckoner.Proofs.Token.Respelled
import Reckoner.Proofs.Session.Parts
import Reckoner.Proofs.Session.Assignments
import Reckoner.Proofs.Text.Excerpt
import Reckoner.Proofs.Token.Stopped
import Reckoner.Proofs.PostOrder.Conservation
import Reckoner.Proofs.PostOrder.Isolation
import Reckoner.Proofs.Token.Marks
import Reckoner.Proofs.Session.Blame
import Reckoner.Proofs.Binary64.Zero
import Reckoner.Proofs.Value.Division
import Reckoner.Proofs.Value.Operands
import Reckoner.Proofs.Value.Traps
import Reckoner.Proofs.Value.Promotion
import Reckoner.Proofs.Value.Powers
import Reckoner.Proofs.Value.Commuting
import Reckoner.Proofs.Builtin.Integers
import Reckoner.Proofs.Builtin.Operators
import Reckoner.Proofs.Statistics.Mode
import Reckoner.Proofs.Evaluation.Pending
import Reckoner.Proofs.PostOrder.Waiting
import Reckoner.Proofs.Builtin.Choices
import Reckoner.Proofs.Builtin.Reals
