import Pseudocode.Proofs.FileSystem.Effect
import Pseudocode.Proofs.Retranslation
import Pseudocode.Proofs.Session

/-! Jobs in a chain, each of which reads what the one before it has written. -/

namespace Pseudocode

namespace Session

end Session

end Pseudocode
