import Outline.Json.Decode

/-!
# What a server can do

A server tells its abilities in the answer to the first request. Only the ability to rename changes
what a session does, but an answer with an ability of the wrong shape is refused as a whole.
-/

namespace Outline.Capabilities

open Json

/-! ### Shapes -/

/-- The shape of a value: whether it can be read. -/
abbrev Shape := Json → Option Unit

/-- The shape of what a decoder reads. -/
def shapeOf {α : Type} (value : Json → Option α) : Shape := fun v => (value v).map fun _ => ()

/-- A field that may be `null`. -/
def maybe {α : Type} (name : String) (value : Json → Option α) : Fields Unit := do
  let _ ← nullable name value

/-- A field that must be there. -/
def always {α : Type} (name : String) (value : Json → Option α) : Fields Unit := do
  let _ ← required name value

/-- One of two shapes. -/
def either (a b : Shape) : Shape := fun v => a v <|> b v

/-- Options of work that can report its progress. They are written as an object only. -/
def progressOptions (fields : Fields Unit) : Shape :=
  objectRecord do
    fields
    maybe "workDoneProgress" bool?

/-- Options without any further fields. -/
def plainOptions : Shape := progressOptions (return)

/-- A flag or options. -/
def flagOr (options : Shape) : Shape := either (shapeOf bool?) options

def texts? : Json → Option (List String) := list? text?

/-! ### Documents -/

/-- Documents by language, scheme and pattern. -/
def documentFilter : Shape :=
  record do
    maybe "language" text?
    maybe "scheme" text?
    maybe "pattern" text?

/-- The documents an ability is registered for. -/
def registration : Shape :=
  record do
    maybe "documentSelector" (list? documentFilter)
    maybe "id" text?

/-- What the server wants to know of saved documents. -/
def saveOptions : Shape := flagOr (record (maybe "includeText" bool?))

/-- How documents are kept in step. -/
def syncOptions : Shape :=
  either (shapeOf int32?) (record do
    maybe "openClose" bool?
    maybe "change" int32?
    maybe "willSave" bool?
    maybe "willSaveWaitUntil" bool?
    maybe "save" saveOptions)

/-! ### Features of a document -/

def completion : Shape :=
  progressOptions do
    maybe "resolveProvider" bool?
    maybe "triggerCharacters" texts?
    maybe "allCommitCharacters" texts?
    maybe "completionItem" (record (maybe "labelDetailsSupport" bool?))

def signatureHelp : Shape :=
  progressOptions do
    maybe "triggerCharacters" texts?
    maybe "retriggerCharacters" texts?

def codeAction : Shape :=
  progressOptions do
    maybe "codeActionKinds" texts?
    maybe "resolveProvider" bool?

def onTypeFormatting : Shape :=
  record do
    always "firstTriggerCharacter" text?
    maybe "moreTriggerCharacter" texts?

/-- Options with the fields of no kind in particular, or the documents they are registered for. -/
def freeOptions : Shape := either (record (return)) registration

def semanticTokens : Shape :=
  progressOptions do
    always "legend" (record do
      always "tokenTypes" texts?
      always "tokenModifiers" texts?)
    maybe "range" bool?
    maybe "full" (flagOr (record (maybe "delta" bool?)))

def documentDiagnostics : Shape :=
  progressOptions do
    maybe "identifier" text?
    always "interFileDependencies" bool?
    always "workspaceDiagnostics" bool?

/-! ### Features of the workspace -/

/-- What a pattern is for: a name, or an object with that name and `null`. -/
def patternKind : Shape
  | .str s            => if ["file", "folder"].contains s then some () else none
  | .obj [(s, .null)] => if ["file", "folder"].contains s then some () else none
  | _                 => none

/-- The files whose operations are told. -/
def fileFilters : Shape :=
  record (always "filters" (list? (record do
    maybe "scheme" text?
    always "pattern" (record do
      always "glob" text?
      maybe "matches" patternKind
      maybe "options" (record (maybe "ignoreCase" bool?))))))

def workspaceFeatures : Shape :=
  record do
    maybe "workspaceFolders" (record do
      maybe "supported" bool?
      maybe "changeNotifications" (flagOr (shapeOf text?)))
    maybe "fileOperations" (record do
      maybe "didCreate" fileFilters
      maybe "willCreate" fileFilters
      maybe "didRename" fileFilters
      maybe "willRename" fileFilters
      maybe "didDelete" fileFilters
      maybe "willDelete" fileFilters)

/-! ### All abilities -/

/-- The ability to rename among all abilities. An ability is there unless it is `null`, even as the
flag `false`. -/
def ofJson : Json → Option Bool :=
  record do
    maybe "positionEncoding" text?
    maybe "textDocumentSync" syncOptions
    maybe "selectionRangeProvider" (flagOr plainOptions)
    maybe "hoverProvider" (flagOr plainOptions)
    maybe "completionProvider" completion
    maybe "signatureHelpProvider" signatureHelp
    maybe "definitionProvider" (flagOr plainOptions)
    maybe "typeDefinitionProvider" (flagOr registration)
    maybe "implementationProvider" (flagOr registration)
    maybe "referencesProvider" (flagOr plainOptions)
    maybe "documentHighlightProvider" (flagOr plainOptions)
    maybe "documentSymbolProvider" (flagOr (progressOptions (maybe "label" text?)))
    maybe "workspaceSymbolProvider" (flagOr (progressOptions (maybe "resolveProvider" bool?)))
    maybe "codeActionProvider" (flagOr codeAction)
    maybe "codeLensProvider" (record (maybe "resolveProvider" bool?))
    maybe "documentFormattingProvider" (flagOr plainOptions)
    maybe "documentRangeFormattingProvider" (flagOr plainOptions)
    maybe "documentOnTypeFormattingProvider" onTypeFormatting
    let rename ← nullable "renameProvider"
      (flagOr (progressOptions (maybe "prepareProvider" bool?)))
    maybe "documentLinkProvider" (progressOptions (maybe "resolveProvider" bool?))
    maybe "colorProvider" (flagOr freeOptions)
    maybe "foldingRangeProvider" (flagOr freeOptions)
    maybe "declarationProvider" (flagOr plainOptions)
    maybe "executeCommandProvider" (progressOptions (always "commands" texts?))
    maybe "workspace" workspaceFeatures
    maybe "callHierarchyProvider" (flagOr plainOptions)
    maybe "semanticTokensProvider" semanticTokens
    maybe "monikerProvider" (flagOr plainOptions)
    maybe "linkedEditingRangeProvider" (flagOr plainOptions)
    maybe "inlineValueProvider" (flagOr plainOptions)
    maybe "inlayHintProvider" (flagOr (progressOptions (maybe "resolveProvider" bool?)))
    maybe "diagnosticProvider" documentDiagnostics
    maybe "experimental" some
    return rename.isSome

/-- The ability to rename in the answer to the first request. -/
def ofStartResult : Json → Option Bool :=
  record do
    let renames ← required "capabilities" ofJson
    maybe "serverInfo" (record do
      always "name" text?
      maybe "version" text?)
    return renames

end Outline.Capabilities
