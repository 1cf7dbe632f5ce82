import Outline.Text.Duration
import Outline.Text.Edit

/-!
# Errors

Two kinds of failure: of the work with the language server and its documents (`HostError`), and of
a tool (`ToolError`), which may carry the first kind. Each has one function that words it.
-/

namespace Outline

/-- A failure of the language server, the connection to it, or one of its documents. -/
inductive HostError where
  /-- The server program did not start. -/
  | startFailed (detail : String)
  /-- The server did not get through its start-up exchange. -/
  | setupFailed (detail : String)
  /-- The server did not answer in time. -/
  | timeout (limit : Duration)
  /-- A message could not be exchanged. -/
  | requestFailed (detail : String)
  /-- A document has no such zero-based position. -/
  | invalidPosition (line column : Nat)
  /-- A document does not exist, cannot be read or is not open. -/
  | documentNotFound (detail : String)
  /-- A set of edits cannot be applied. -/
  | invalidEdit (detail : String)
  /-- Reading or writing a file failed. -/
  | io (detail : String)
  deriving DecidableEq, Repr

namespace HostError

/-- The error in words. -/
def message : HostError → String
  | startFailed detail          => "failed to start language server: " ++ detail
  | setupFailed detail          => "language server initialization failed: " ++ detail
  | timeout limit               => "language server request timed out after " ++ limit.text
  | requestFailed detail        => "failed to send request to language server: " ++ detail
  | invalidPosition line column => s!"invalid position: line {line}, column {column}"
  | documentNotFound detail     => "document not found: " ++ detail
  | invalidEdit detail          => "invalid edit: " ++ detail
  | io detail                   => "IO error: " ++ detail

/-- The server did not answer in time. -/
def isTimeout : HostError → Bool
  | timeout _ => true
  | _         => false

/-- The failure of a document whose edits cannot be applied. -/
def ofEdit : EditError → HostError
  | .noSuchPosition p => invalidPosition p.line p.character
  | .reversed line    => invalidEdit s!"range end precedes start at line {line}"
  | .overlap start    => invalidEdit s!"overlapping edits at byte offset {start}"

end HostError

/-- A failure of a tool. -/
inductive ToolError where
  /-- The named file does not exist. -/
  | fileNotFound (path : String)
  /-- The server knows no symbols of the file. -/
  | noSymbols (path : String)
  /-- The name path leads to no symbol. -/
  | symbolNotFound (namePath : String)
  /-- The server gave the symbol no range. -/
  | missingRange (namePath : String)
  /-- The rename brought no edits. -/
  | renameFailed (detail : String)
  /-- The arguments make no sense. -/
  | invalidArguments (detail : String)
  /-- The language server or a document failed. -/
  | host (error : HostError)
  deriving DecidableEq, Repr

namespace ToolError

/-- The error in words. -/
def message : ToolError → String
  | fileNotFound path       => "file not found: " ++ path
  | noSymbols path          => "no symbols found in " ++ path
  | symbolNotFound namePath => "symbol not found: `" ++ namePath ++ "`"
  | missingRange namePath   => "symbol `" ++ namePath ++ "` has no range"
  | renameFailed detail     => "rename failed: " ++ detail
  | invalidArguments detail => "invalid tool arguments: " ++ detail
  | host error              => "LSP error: " ++ error.message

end ToolError

end Outline
