import Outline.Json.Decode

/-!
# The first words with a client

A client greets with the version of the protocol it speaks, with what it can do and with its name.
The answer names the older of the two versions, and what the server is.
-/

namespace Outline.ToolServer

open Json

/-- What a client is told about the server as a whole. -/
def instructions : String :=
  "Symbol-level code navigation and editing via LSP. Address code by name path (`Class/method`) " ++
    "instead of line and column: list a file's symbols, find usages, replace or insert around a " ++
    "definition, and rename across the workspace. File paths are relative to the workspace root."

/-- The newest version of the protocol that is spoken here. -/
def latestVersion : String := "2025-03-26"

/-- The version spoken with a client that asks for one. -/
def agreedVersion (asked : String) : String :=
  if asked < latestVersion then asked else latestVersion

/-- The answer to a greeting, with the version that is spoken from then on. -/
def greeting (version : String) : Json :=
  .obj [("protocolVersion", .str version), ("capabilities", .obj [("tools", .obj [])]),
    ("serverInfo", .obj [("name", .str "symbolsmith"), ("version", .str "0.1.0")]),
    ("instructions", .str instructions)]

/-! ### Reading a greeting -/

/-- An object with any fields. -/
def anyObject? : Json → Option Unit
  | .obj _ => some ()
  | _      => none

/-- Remarks about a request itself, which any parameters may hold. -/
def requestRemarks : Fields Unit := do
  let _ ← nullable "_meta" anyObject?

/-- What a client can do. -/
def clientAbilities? : Json → Option Unit :=
  record do
    let _ ← nullable "experimental" (pairs? some anyObject?)
    let _ ← nullable "roots" (record (nullable "listChanged" bool?))
    let _ ← nullable "sampling" anyObject?
    let _ ← nullable "elicitation" (record (nullable "schemaValidation" bool?))

/-- A picture of a client. -/
def icon? : Json → Option Unit :=
  record do
    let _ ← required "src" text?
    let _ ← nullable "mimeType" text?
    let _ ← nullable "sizes" (list? text?)

/-- Who a client is. -/
def clientInfo? : Json → Option Unit :=
  record do
    let _ ← required "name" text?
    let _ ← nullable "title" text?
    let _ ← required "version" text?
    let _ ← nullable "icons" (list? icon?)
    let _ ← nullable "websiteUrl" text?

/-- The parameters of a greeting. -/
def isGreeting (params : Json) : Bool :=
  (objectRecord (do
    requestRemarks
    let _ ← required "protocolVersion" text?
    let _ ← required "capabilities" clientAbilities?
    let _ ← required "clientInfo" clientInfo?) params).isSome

end Outline.ToolServer
