import Outline.Uri.Domain.Direction
import Outline.Uri.Domain.Joining
import Outline.Uri.Domain.Mapping
import Outline.Uri.Percent
import Outline.Uri.Punycode

/-!
# Domain names

A domain name in any alphabet has one written form in ASCII: its characters are mapped and composed,
it is cut into labels, and each label that is not ASCII is written in Punycode behind a mark. A
label that is already written so must stand for a label that is mapped and composed.
-/

namespace Outline.Uri.Domain

/-- Characters no host can hold. -/
def isForbiddenInHost (c : Char) : Bool :=
  c.toNat == 0 || " #/:<>?@[\\]^|\t\n\r".toList.contains c

/-- Characters no domain can hold in its ASCII form. -/
def isForbidden (c : Char) : Bool := isForbiddenInHost c || Percent.controls c || c == '%'

/-- A character of one byte. -/
def isAscii (c : Char) : Bool := c.toNat < 0x80

/-- What stands before a label in Punycode. -/
def punycodeMark : List Char := "xn--".toList

/-- A label of a domain name. -/
structure Label where
  /-- The characters that are shown. -/
  shown : List Char
  /-- The written form. -/
  ascii : List Char

/-- Reads a label in Punycode. Reading is limited to 2000 characters, and the label must hold a
character that is not ASCII. -/
def decoded? (label : List Char) : Option (List Char) := do
  let code := label.drop punycodeMark.length
  guard (label.all isAscii && label.getLast? ≠ some '-' && code.length ≤ 2000)
  let shown ← Punycode.decode? code
  guard (shown.all isPlain && compose shown = shown)
  return shown

/-- Both forms of a mapped and composed label. Writing in Punycode is limited to 1000 characters. -/
def forms? (label : List Char) : Option Label :=
  if punycodeMark.isPrefixOf label then (decoded? label).map (⟨·, label⟩)
  else if label.all isAscii then some ⟨label, label⟩
  else if label.length ≤ 1000 then some ⟨label, punycodeMark ++ Punycode.encode label⟩
  else none

/-- A label that can be shown: without characters a domain cannot hold, without a mark at its front,
and with joiners only where they belong. -/
def isShowable (shown : List Char) : Bool :=
  !shown.any isForbidden && !shown.head?.any isMark && joinersFit [] shown

/-- Reads a mapped and composed label. -/
def label? (label : List Char) : Option Label := (forms? label).filter (isShowable ·.shown)

/-- The ASCII form of a domain name; `none` if a label of it is no label. -/
def toAscii? (name : List Char) : Option (List Char) := do
  let labels ← (splitOn '.' (← normalized? name)).mapM label?
  if labels.any (turns ·.shown) then guard (labels.all (keepsDirection ·.shown))
  return ['.'].intercalate (labels.map (·.ascii))

end Outline.Uri.Domain
