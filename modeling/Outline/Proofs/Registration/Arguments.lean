import Mathlib.Data.List.TakeWhile
import Outline.CommandLine
import Outline.Proofs.Registration.Adding

/-!
# Registered arguments

The arguments of an entry are written for the reader of the command line: an option that is given
once and its value are two arguments, and each argument of the language server is one, behind the
first `=`. So nothing in such an argument is taken for anything else. The command of the language
server stands alone, and must not look like an option.
-/

namespace Outline

namespace CommandLine

variable {r r' : Reading} {option : OptionName} {arg name value : String} {rest : List String}

end CommandLine

namespace Registration

end Registration

end Outline
