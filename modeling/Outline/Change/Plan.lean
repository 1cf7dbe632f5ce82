import Outline.Change.WorkspaceEdit
import Outline.Error
import Outline.Symbol.Tree

/-!
# Edit plans

A plan holds the edits of every document of one change. It is made from a symbol and what is to be
done with its text, or from a change that a server proposes.
-/

namespace Outline

/-- What to do with the text of a symbol. -/
inductive Intent where
  /-- Put the text in place of the symbol. -/
  | replace (body : String)
  /-- Put the text on lines of its own behind the symbol. -/
  | insertAfter (body : String)
  /-- Put the text at the start of the first line of the symbol. -/
  | insertBefore (body : String)
  deriving DecidableEq, Repr

/-- The edits of one change. -/
structure EditPlan where
  changes : EditSet
  deriving DecidableEq, Repr, Inhabited

namespace EditPlan

/-- Number of documents. -/
def documentCount (p : EditPlan) : Nat := p.changes.length

/-- Number of edits of all documents. -/
def editCount (p : EditPlan) : Nat := p.changes.foldr (fun c n => c.2.length + n) 0

/-- The plan names no document. -/
def isEmpty (p : EditPlan) : Bool := p.changes.isEmpty

end EditPlan

/-- The edit that carries out an intent at a range. -/
def Intent.edit (range : Range) : Intent → TextEdit
  | replace body      => ⟨range, body⟩
  | insertAfter body  => ⟨.point range.stop, "\n" ++ body ++ "\n"⟩
  | insertBefore body => ⟨.point ⟨range.start.line, 0⟩, body ++ "\n"⟩

/-- Plans an edit of a symbol, in the document that the symbol itself names. -/
def planEdit (symbol : Symbol) (intent : Intent) : Except ToolError EditPlan :=
  match symbol.range with
  | none       => .error (.missingRange symbol.namePath)
  | some range => .ok ⟨[(symbol.uri, [intent.edit range])]⟩

/-- The edits of one change of a list; changes of whole files bring none. -/
def DocumentChange.edits? : DocumentChange → Option (Uri × List TextEdit)
  | .edit d      => some (d.uri, d.edits.map ProposedEdit.edit)
  | .operation _ => none

/-- The edits that a change proposes, document by document: those of its list of changes if it has
any, else those of its map. -/
def WorkspaceEdit.proposals (e : WorkspaceEdit) : List (Uri × List TextEdit) :=
  match e.documentChanges with
  | some (c :: cs) => (c :: cs).filterMap DocumentChange.edits?
  | _              => e.changes.getD []

/-- Plans a proposed change. There is no plan when no document is named. -/
def planRename (e : WorkspaceEdit) : Option EditPlan :=
  let changes : EditSet := Keyed.gather e.proposals
  if changes.isEmpty then none else some ⟨changes⟩

end Outline
