import Outline.Json.Printer
import Outline.Tool.Answer
import Outline.Tool.Catalog
import Outline.Tool.Greeting

/-!
# Serving the tools

A client asks by methods: for the catalogue, for a call of a tool, and for lists that are empty
here. A tool that fails gives an answer that says so; only a request that makes no sense is an error
of the exchange itself.
-/

namespace Outline

/-- A request that makes no sense. -/
inductive RpcError where
  | unknownMethod (method : String)
  | unknownTool
  | badParameters
  deriving DecidableEq, Repr

namespace RpcError

/-- The number of the error. -/
def code : RpcError → Int
  | unknownMethod _ => -32601
  | unknownTool     => -32602
  | badParameters   => -32602

/-- The error in words. -/
def message : RpcError → String
  | unknownMethod method => method
  | unknownTool          => "tool not found"
  | badParameters        => "failed to deserialize parameters"

end RpcError

/-- The answer of a tool. -/
structure ToolReply where
  text    : String
  isError : Bool
  deriving DecidableEq, Repr

namespace ToolReply

/-- The answer for the outcome of a call. -/
def ofOutcome : Except ToolError Json → ToolReply
  | .ok v    => ⟨v.pretty, false⟩
  | .error e => ⟨(Json.obj [("error", .str e.message)]).compact, true⟩

def toJson (r : ToolReply) : Json :=
  .obj [("content", .arr [.obj [("type", .str "text"), ("text", .str r.text)]]),
    ("isError", .bool r.isError)]

end ToolReply

namespace ToolServer

open Json

variable {σ : Type} [Host σ]

/-- Calls a tool by name. -/
def callTool (root : Path) (tool : String) (arguments : Json) : Action σ RpcError ToolReply := do
  match ToolName.ofText? tool with
  | none      => throw .unknownTool
  | some name =>
    match ToolCall.ofJson name arguments with
    | none      => throw .badParameters
    | some call =>
      let outcome ← .ofState (call.run root).run
      return .ofOutcome outcome

/-- The name of a tool and its arguments; without any they are an empty object. -/
def callParams? : Json → Option (String × Json) :=
  objectRecord do
    requestRemarks
    let tool ← required "name" text?
    let arguments ← nullable "arguments" fun v => (anyObject? v).map fun _ => v
    return (tool, arguments.getD (.obj []))

/-- Parameters of a request for a list: none, or an object. Where a long list goes on does not
matter, since no list is long. -/
def isListParams : Json → Bool
  | .null => true
  | v     => (objectRecord requestRemarks v).isSome

/-- What a completion refers to. -/
def completionSubject? : Json → Option Unit :=
  ofTag "type" ["ref/resource", "ref/prompt"] fun
    | "ref/resource" => do
      let _ ← required "uri" text?
    | _ => do
      let _ ← required "name" text?
      let _ ← nullable "title" text?

/-- The parameters of a request for completions. -/
def isCompletion (params : Json) : Bool :=
  (objectRecord (do
    requestRemarks
    let _ ← required "ref" completionSubject?
    let _ ← required "argument" (record do
      let _ ← required "name" text?
      let _ ← required "value" text?)
    let _ ← nullable "context" (record (nullable "arguments" (pairs? some text?)))) params).isSome

/-- The lists that can be asked for. -/
def list? : String → Option Json
  | "tools/list"               => some toolCatalog
  | "prompts/list"             => some (.obj [("prompts", .arr [])])
  | "resources/list"           => some (.obj [("resources", .arr [])])
  | "resources/templates/list" => some (.obj [("resourceTemplates", .arr [])])
  | _                          => none

/-- The answer to a request that is neither a call nor unknown, when its parameters fit. -/
def fixedAnswer? (method : String) (params : Json) : Option Json :=
  match method with
  | "ping"                => some (.obj [])
  | "initialize"          => if isGreeting params then some (greeting latestVersion) else none
  | "completion/complete" =>
    if isCompletion params then some (.obj [("completion", .obj [("values", .arr [])])]) else none
  | _                     => if isListParams params then list? method else none

/-- Answers a request. Parameters that do not fit its method make it unknown. -/
def handle (root : Path) (method : String) (params : Json) : Action σ RpcError Json := do
  match method, callParams? params, fixedAnswer? method params with
  | "tools/call", some (tool, arguments), _ => return (← callTool root tool arguments).toJson
  | _, _, some answer => return answer
  | _, _, none        => throw (.unknownMethod method)

end ToolServer

end Outline
