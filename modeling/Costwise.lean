import Costwise.Completion
import Costwise.Inspection
import Costwise.Main
import Costwise.Proofs.Site
import Costwise.Proofs.Traversal
import Costwise.Proofs.Ownership
import Costwise.Proofs.Consistency
import Costwise.Proofs.Judgement
import Costwise.Proofs.Agreement
import Costwise.Proofs.Alike
import Costwise.Proofs.Nested
import Costwise.Proofs.Placeholder
import Costwise.Proofs.Monotone
import Costwise.Proofs.FiniteRange
import Costwise.Proofs.Moved
import Costwise.Proofs.Overflow
import Costwise.Proofs.Grounds
import Costwise.Proofs.Concatenation
import Costwise.Proofs.Publication
import Costwise.Proofs.Course
import Costwise.Proofs.Tally
import Costwise.Proofs.Transcription
import Costwise.Proofs.Comments
import Costwise.Proofs.Inventory
import Costwise.Proofs.Appearance
import Costwise.Proofs.DeclaredName
import Costwise.Proofs.Matching
import Costwise.Proofs.Halving
import Costwise.Proofs.Separator
import Costwise.Proofs.Operators
import Costwise.Proofs.Rearrangement
import Costwise.Proofs.Padding
import Costwise.Proofs.Parentheses
import Costwise.Proofs.Precedence
import Costwise.Proofs.Rereading
import Costwise.Proofs.Ranking
import Costwise.Proofs.Blocks
import Costwise.Proofs.Coverage
import Costwise.Proofs.FirstFault
import Costwise.Proofs.Folders
import Costwise.Proofs.Continuation
