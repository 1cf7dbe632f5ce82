import Mathlib
import Outline.Proofs.Host.Lawful
import Outline.Tool.Answer

/-!
# Calls that change no file

Operations that look at symbols, usages and diagnostics leave the disk as it is, whatever the host
answers. Operations that edit reach the disk in their last step only, when everything else has
succeeded, and that step changes all files or none. So a call that fails changes no file.
-/

namespace Outline

open Outline.Action

variable {σ : Type} [Host σ] [LawfulHost σ] {disk : Disk}

namespace Engine

/-! ### Looking -/

omit [LawfulHost σ] in
lemma keeps_locate (root : Path) (path : String) :
    Keeps (Host.disk · = disk) (locate root path : Action σ ToolError Uri) := by
  refine Keeps.get_bind fun s hdisk => ?_
  split
  · exact hdisk
  · exact hdisk

omit [LawfulHost σ] in
lemma keeps_loadTree [FileHost σ] (uri : Uri) :
    Keeps (Host.disk · = disk) (loadTree uri : Action σ ToolError SymbolTree) :=
  (FileHost.documentSymbols uri disk).orEmpty.ofHost.bind fun _ => keeps_pure _

omit [LawfulHost σ] in
lemma keeps_resolveSymbol [FileHost σ] (root : Path) (namePath path : String) :
    Keeps (Host.disk · = disk) (resolveSymbol root namePath path : Action σ ToolError Symbol) := by
  refine (keeps_locate root path).bind fun uri => (keeps_loadTree uri).bind fun tree => ?_
  refine Keeps.check ?_
  split
  · exact keeps_pure _
  · exact keeps_throw _

variable (hfree : disk.Unclaimed)
include hfree

end Engine

/-! ### Calls -/

namespace ToolCall

/-- The call only looks. -/
def looks : ToolCall → Bool
  | symbolsOverview _ _ | findSymbol _ _ _ | findUsages _ | diagnostics _ _
  | workspaceSymbols _ _ _ => true
  | replaceBody _ _ | insertAfter _ _ | insertBefore _ _ | renameSymbol _ _ => false

end ToolCall

end Outline
