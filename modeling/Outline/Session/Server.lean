import Outline.Json.Parser
import Outline.Json.Printer
import Outline.Session.Message

/-!
# Servers

A server is known by its behaviour: whether it still takes messages, and how it reacts to a request,
both after the messages received so far.
-/

namespace Outline

/-- A language server. Messages received are listed with the last one first. -/
structure Server where
  /-- The server takes one more message. -/
  accepts : (received : List ClientMessage) → Bool
  /-- The reaction to the request received last. -/
  reply   : (received : List ClientMessage) → Reply

/-! ### Servers that follow a script -/

/-- How a scripted answer comes about. -/
inductive ScriptedOutcome where
  | ends
  | silent
  | failure (e : ResponseError)
  /-- A result for each document; `null` for all others. -/
  | byDocument (results : List (String × Json))
  | result (v : Json)
  /-- Nothing is said: the usual answer. -/
  | usual

/-- One answer of a script. -/
structure ScriptedReply where
  notes   : List ServerNote
  outcome : ScriptedOutcome

/-- Answers by method. The request number `n` of a method gets the answer number `n`, and the last
answer when there are not as many. -/
structure Script where
  capabilities : Json
  replies      : List (String × List ScriptedReply)

namespace Script

/-- The answer of a method without a script. -/
def usualResult (script : Script) (request : ClientMessage) : Json :=
  match request with
  | .start _ => .obj [("capabilities", script.capabilities)]
  | _        => .null

/-- The reaction that an answer of the script stands for. -/
def outcomeFor (script : Script) (request : ClientMessage) : ScriptedOutcome → ReplyOutcome
  | .ends               => .ends
  | .silent             => .silent
  | .failure e          => .failure e
  | .byDocument results =>
    .result ((request.document?.bind fun uri => Json.find? uri.text results).getD .null)
  | .result v           => .result v
  | .usual              => .result (script.usualResult request)

/-- The answer for the request number `n` of a list. -/
def pick (n : Nat) (answers : List ScriptedReply) : Option ScriptedReply :=
  answers[n]? <|> answers.getLast?

/-- The reaction to a request after the messages before it. -/
def replyTo (script : Script) (request : ClientMessage) (before : List ClientMessage) : Reply :=
  let n := (before.filter (·.method? == request.method?)).length
  let answers := ((script.replies.find? (some ·.1 == request.method?)).map Prod.snd).getD []
  match pick n answers with
  | some answer => ⟨answer.notes, script.outcomeFor request answer.outcome⟩
  | none        => ⟨[], .result (script.usualResult request)⟩

/-- The server that follows a script; it takes every message. -/
def server (script : Script) : Server where
  accepts _ := true
  reply
    | []                => ⟨[], .silent⟩
    | request :: before => script.replyTo request before

/-! ### Reading scripts -/

/-- A value written and read again, which may change the last digit of a double. -/
def reread (v : Json) : Json := (Json.parse v.compact).getD v

/-- An answer with an error or a result. -/
def answerOfJson? (v : Json) : Option ReplyOutcome :=
  match (v.get? "error").getD .null with
  | .null => some (.result ((v.get? "result").getD .null))
  | e     => (ResponseError.ofJson e).map .failure

/-- A message of the server. One with a number and a method is a question, one with a number alone
an answer, and one with a method alone is news. -/
def noteOfJson (v : Json) : ServerNote :=
  let number? := (v.get? "id").bind Json.int32?
  let hasId := number?.isSome || ((v.get? "id").bind Json.text?).isSome
  match hasId, (v.get? "method").bind Json.text?, answerOfJson? v with
  | true,  some method, _            => .question method
  | true,  none,        some outcome => .answer (number?.getD (-1)) outcome
  | true,  none,        none         => .garbage
  | false, some method, _            => .news method ((v.get? "params").getD .null)
  | false, none,        _            => .garbage

def isTrue (v : Json) (name : String) : Bool :=
  match v.get? name with
  | some (.bool true) => true
  | _                 => false

/-- The first of the fields that applies says how the answer comes about; `null` applies nowhere.
An error that is not well formed is no answer, and ends the connection. -/
def outcomeOfJson (v : Json) : ScriptedOutcome :=
  let field (name : String) := (v.get? name).getD .null
  if isTrue v "exit" then .ends
  else if isTrue v "silent" then .silent
  else
    match field "error", field "byUri", field "result" with
    | .null, .obj results, _ => .byDocument results
    | .null, _, .null        => .usual
    | .null, _, result       => .result result
    | e, _, _                => ((ResponseError.ofJson e).map .failure).getD .ends

def replyOfJson (v : Json) : ScriptedReply :=
  let notes :=
    match v.get? "before" with
    | some (.arr notes) => notes.map noteOfJson
    | _                 => []
  ⟨notes, outcomeOfJson v⟩

/-- Reads a script; parts that are missing are empty. What a server sends has been written and read
again twice: on its way into the script and on its way out of the server. -/
def ofJson (v : Json) : Script :=
  let v := reread (reread v)
  let replies :=
    match v.get? "replies" with
    | some (.obj fields) => fields.map fun (method, answers) =>
      match answers with
      | .arr answers => (method, answers.map replyOfJson)
      | _            => (method, [])
    | _ => []
  ⟨(v.get? "capabilities").getD (.obj []), replies⟩

end Script

end Outline
