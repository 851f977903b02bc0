import BracketScript.Double.Bits
import BracketScript.Main
import BracketScript.Scope.Forest
import BracketScript.Proofs.GroupStack
import BracketScript.Proofs.Nesting
import BracketScript.Proofs.SyntaxFaults
import BracketScript.Proofs.Flattening
import BracketScript.Proofs.Escapes
import BracketScript.Proofs.Partition
import BracketScript.Proofs.Stepping
import BracketScript.Proofs.Termination
import BracketScript.Proofs.Requests
import BracketScript.Proofs.Joining
import BracketScript.Proofs.Nodes
import BracketScript.Proofs.DecimalNotation
import BracketScript.Proofs.Orderly
import BracketScript.Proofs.Placement
import BracketScript.Proofs.Splicing
import BracketScript.Proofs.Arguments
import BracketScript.Proofs.Filling
import BracketScript.Proofs.EscapedText
import BracketScript.Proofs.Lifting
import BracketScript.Proofs.SourceInSource
import BracketScript.Proofs.Rounding
import BracketScript.Proofs.IntegerComparison
import BracketScript.Proofs.Sequences
import BracketScript.Proofs.Conduct
import BracketScript.Proofs.Growth
import BracketScript.Proofs.Stopping
import BracketScript.Proofs.Levels
import BracketScript.Proofs.CallDepth
import BracketScript.Proofs.Unwinding
import BracketScript.Proofs.StrictBrackets
import BracketScript.Proofs.Variation
import BracketScript.Proofs.Mirroring
import BracketScript.Proofs.Laziness
import BracketScript.Proofs.Seams
import BracketScript.Proofs.Slots
import BracketScript.Proofs.Trichotomy
import BracketScript.Proofs.Names
import BracketScript.Proofs.ScopeHistory
import BracketScript.Proofs.Isolation
import BracketScript.Proofs.Respelling
import BracketScript.Proofs.Recasing
import BracketScript.Proofs.Origins
import BracketScript.Proofs.Roles
import BracketScript.Proofs.CallFree
import BracketScript.Proofs.Application
import BracketScript.Proofs.Occurrences
import BracketScript.Proofs.Parts
import BracketScript.Proofs.FirstMatch
import BracketScript.Proofs.Rendering
import BracketScript.Proofs.FileNames
import BracketScript.Proofs.Batches
import BracketScript.Proofs.Commands
import BracketScript.Proofs.Variables
import BracketScript.Proofs.Truncation
import BracketScript.Proofs.Truthiness
import BracketScript.Proofs.IntegerText
import BracketScript.Proofs.ByteOffsets
import BracketScript.Proofs.DirectAccess
import BracketScript.Proofs.Settings
import BracketScript.Proofs.LiteralReplacement
import BracketScript.Proofs.OperatorPlaces
import BracketScript.Proofs.Numerals
