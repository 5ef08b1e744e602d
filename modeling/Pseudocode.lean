import Pseudocode.Main
import Pseudocode.Nesting
import Pseudocode.Session
import Pseudocode.Proofs.Text.Lines
import Pseudocode.Proofs.Text.Parts
import Pseudocode.Proofs.Text.Template
import Pseudocode.Proofs.Keyword
import Pseudocode.Proofs.Statement
import Pseudocode.Proofs.Parsing
import Pseudocode.Proofs.Emission
import Pseudocode.Proofs.Fault
import Pseudocode.Proofs.Layout
import Pseudocode.Proofs.Outcome
import Pseudocode.Proofs.Concatenation
import Pseudocode.Proofs.Reformatting
import Pseudocode.Proofs.Locality
import Pseudocode.Proofs.CodeLines
import Pseudocode.Proofs.Recovery
import Pseudocode.Proofs.Retranslation
import Pseudocode.Proofs.Forest
import Pseudocode.Proofs.FileSystem
import Pseudocode.Proofs.FileSystem.Effect
import Pseudocode.Proofs.Tool.Job
import Pseudocode.Proofs.Tool.Failure
import Pseudocode.Proofs.Tool.Independence
import Pseudocode.Proofs.Tool.Repetition
import Pseudocode.Proofs.Tool.FixedPoint
import Pseudocode.Proofs.Session
import Pseudocode.Proofs.Tool.Chain
import Pseudocode.Proofs.FileSystem.Output
