import Outline.Uri.Basic
import Outline.Uri.Host

/-!
# Reading URIs

Any text with a scheme in front is read into normal form: blanks around it and line breaks in it
are dropped, the scheme and the host are brought to lower case, dot segments are resolved, default
ports are dropped, and characters that a part cannot hold are percent-encoded. What is already
percent-encoded stays as it is.
-/

namespace Outline.Uri

/-! ### Cleaning and cutting -/

/-- Drops blanks and control characters at both ends, and tabs and line breaks everywhere. -/
def cleaned (text : List Char) : List Char :=
  let isEdge (c : Char) : Bool := c.toNat ≤ 0x20
  (trimBy isEdge text).filter fun c => c ≠ '\t' && c ≠ '\n' && c ≠ '\r'

/-- Cuts at the first separator; the second part is missing without one. -/
def cutAt (separator : Char) : List Char → List Char × Option (List Char)
  | []      => ([], none)
  | c :: cs =>
    if c = separator then ([], some cs)
    else
      let (front, back) := cutAt separator cs
      (c :: front, back)

/-- Cuts at the last separator, if there is one. -/
def cutAtLast (separator : Char) (cs : List Char) : Option (List Char × List Char) :=
  match cutAt separator cs.reverse with
  | (back, some front) => some (front.reverse, back.reverse)
  | (_, none)          => none

/-! ### Schemes -/

/-- How a scheme reads what follows it. -/
inductive SchemeKind where
  /-- Files: the host may be missing. -/
  | file
  /-- A host is needed. -/
  | hosted
  /-- Anything else. -/
  | other
  deriving DecidableEq, Repr

def SchemeKind.ofName (scheme : String) : SchemeKind :=
  if scheme = "file" then file
  else if ["http", "https", "ws", "wss", "ftp"].contains scheme then hosted
  else other

/-- A backslash counts as a slash. -/
def SchemeKind.isSpecial (k : SchemeKind) : Bool := k ≠ .other

/-- The port that is not written. -/
def defaultPort? : String → Option Nat
  | "http"  => some 80
  | "ws"    => some 80
  | "https" => some 443
  | "wss"   => some 443
  | "ftp"   => some 21
  | _       => none

def isSchemeChar (c : Char) : Bool := c.isAlphanum || c == '+' || c == '-' || c == '.'

/-- The scheme in lower case and what follows its colon. -/
def scheme? (cs : List Char) : Option (String × List Char) :=
  match cs.head?, cutAt ':' cs with
  | some c, (name, some rest) =>
    if c.isAlpha && name.all isSchemeChar then some (String.ofList (name.map Char.toLower), rest)
    else none
  | _, _ => none

/-! ### Paths -/

/-- Divides segments: a slash, and for special schemes also a backslash. -/
def SchemeKind.isSlash (k : SchemeKind) (c : Char) : Bool := c == '/' || (k.isSpecial && c == '\\')

/-- The segments of a path, each encoded. -/
def SchemeKind.segments (k : SchemeKind) (cs : List Char) : List String :=
  (splitOn '/' (cs.map fun c => if k.isSlash c then '/' else c)).map
    (Percent.encode Percent.pathSet)

/-- A segment that names the directory itself. -/
def isDot (segment : String) : Bool := [".", "%2e"].contains segment.toLower

/-- A segment that names the parent directory. -/
def isDoubleDot (segment : String) : Bool :=
  ["..", ".%2e", "%2e.", "%2e%2e"].contains segment.toLower

/-- A letter and a colon or bar, which names a drive. -/
def isDrive (segment : List Char) : Bool :=
  match segment with
  | [c, mark] => c.isAlpha && (mark == ':' || mark == '|')
  | _         => false

/-- Leaves a directory; a drive is never left. `done` holds the segments in reverse. -/
def leave : (done : List String) → List String
  | []      => []
  | s :: ss => if isDrive s.toList then s :: ss else ss

/-- A segment at the front of a file path; a drive is written with a colon. -/
def driveFirst (segment : String) : String :=
  if isDrive segment.toList then String.ofList (segment.toList.take 1 ++ [':']) else segment

/-- Resolves dot segments. A path that ends in one ends in a slash. -/
def resolveDots (k : SchemeKind) : (done : List String) → List String → List String
  | done, []        => done.reverse
  | done, s :: rest =>
    -- after a dot segment at the end, the path ends in an empty segment
    let close (done : List String) := if rest.isEmpty then "" :: done else done
    if isDoubleDot s then resolveDots k (close (leave done)) rest
    else if isDot s then resolveDots k (close done) rest
    else if k = .file && done.isEmpty then resolveDots k [driveFirst s] rest
    else resolveDots k (s :: done) rest

/-- Drops empty segments at the front of a file path. -/
def dropEmptyFront : List String → List String
  | "" :: s :: rest => dropEmptyFront (s :: rest)
  | segments        => segments

/-- Reads a path that follows its first slash. -/
def SchemeKind.rooted (k : SchemeKind) (cs : List Char) : List String :=
  let segments := resolveDots k [] (k.segments cs)
  if k = .file then dropEmptyFront segments else segments

/-- A file path that begins with a drive. -/
def onDrive (cs : List Char) : Bool :=
  (resolveDots .file [] (SchemeKind.file.segments cs)).head?.any (isDrive ·.toList)

/-- Drops one slash at the front. -/
def SchemeKind.dropSlash (k : SchemeKind) : List Char → List Char
  | c :: cs => if k.isSlash c then cs else c :: cs
  | []      => []

/-! ### Authorities -/

/-- User name and password as they are written, with the `@` behind them. -/
def userinfoText (cs : List Char) : String :=
  let (user, password) := cutAt ':' cs
  let shown := Percent.encode Percent.userinfoSet user ++
    match password with
    | some (c :: rest) => ":" ++ Percent.encode Percent.userinfoSet (c :: rest)
    | _                => ""
  if shown.isEmpty then "" else shown ++ "@"

/-- Cuts the port off a host; a colon in brackets belongs to the host. -/
def cutPort : (inside : Bool) → List Char → List Char × Option (List Char)
  | _,      []      => ([], none)
  | inside, c :: cs =>
    if c = ':' && !inside then ([], some cs)
    else
      let (host, port) := cutPort (c = '[' || (inside && c ≠ ']')) cs
      (c :: host, port)

/-- Cuts a port off what follows it, which is nothing or begins with a backslash. -/
def portDigits? (cs : List Char) : Option (List Char × List Char) := do
  let rest := cs.dropWhile Char.isDigit
  guard (rest.head?.all (· == '\\'))
  return (cs.takeWhile Char.isDigit, rest)

/-- A port, left out when it is missing or the usual one. -/
def port? (scheme : String) (digits : List Char) : Option (Option Nat) :=
  if digits.isEmpty then some none
  else do
    let n ← Host.valueIn? 10 digits
    guard (n < 0x10000)
    return if defaultPort? scheme = some n then none else some n

/-- Reads a host and a port; also gives what follows them before the path. -/
def hostAndPort? (scheme : String) (k : SchemeKind) (cs : List Char) :
    Option (String × Option Nat × List Char) := do
  let (hostText, portText) := cutPort false cs
  let host ← if k.isSpecial then Host.domain? hostText else Host.plain? hostText
  guard (!(host.isEmpty && portText.isSome))
  let (digits, rest) ← portDigits? (portText.getD [])
  return (host, ← port? scheme digits, rest)

/-- Reads an authority; also gives what follows it before the path. `atEnd` says that the URI ends
with it. An `@` alone is no user name, but something must follow it unless the URI ends there. -/
def authority? (scheme : String) (k : SchemeKind) (atEnd : Bool) (cs : List Char) :
    Option (Authority × List Char) := do
  let (userinfo, hostPart) :=
    match cutAtLast '@' cs with
    | some (userinfo, rest) => (userinfo, rest)
    | none                  => ([], cs)
  guard (cs ≠ ['@'] || atEnd)
  let (host, port, rest) ← hostAndPort? scheme k hostPart
  let shown := userinfoText userinfo
  guard (!host.isEmpty || shown.isEmpty)
  return (⟨shown, host, port⟩, rest)

/-! ### Whole URIs -/

/-- The host of a file; this machine needs no name. -/
def fileHost? (cs : List Char) : Option String :=
  if cs.isEmpty then some ""
  else (Host.domain? cs).map fun host => if host = "localhost" then "" else host

/-- Reads a file URI behind its scheme. Behind two slashes and no host the path keeps its first
slash, so that nothing in it stands at the very front. -/
def fileParts? (cs : List Char) : Option (Option Authority × UriPath) :=
  let k := SchemeKind.file
  let here (path : List Char) := some (some ⟨"", "", none⟩, .rooted (k.rooted path))
  match cs with
  | a :: b :: rest =>
    if k.isSlash a && k.isSlash b then
      let hostText := rest.takeWhile (!k.isSlash ·)
      let path := rest.dropWhile (!k.isSlash ·)
      if isDrive hostText then here rest
      else do
        let host ← fileHost? hostText
        -- a drive is on this machine
        if host.isEmpty then here path
        else if onDrive (k.dropSlash path) then here (k.dropSlash path)
        else return (some ⟨"", host, none⟩, .rooted (k.rooted (k.dropSlash path)))
    else here (k.dropSlash cs)
  | _ => here (k.dropSlash cs)

/-- Reads what follows the slashes before an authority. -/
def authorityParts? (scheme : String) (k : SchemeKind) (atEnd : Bool) (cs : List Char) :
    Option (Option Authority × UriPath) := do
  let path := cs.dropWhile (!k.isSlash ·)
  let (authority, rest) ←
    authority? scheme k (atEnd && path.isEmpty) (cs.takeWhile (!k.isSlash ·))
  let path := rest ++ path
  let segments := if path.isEmpty && !k.isSpecial then [] else k.rooted (k.dropSlash path)
  return (some authority, .rooted segments)

/-- Reads authority and path behind a scheme; `atEnd` says that no query and no fragment follow. -/
def parts? (scheme : String) (atEnd : Bool) (cs : List Char) :
    Option (Option Authority × UriPath) :=
  match SchemeKind.ofName scheme with
  | .file   => fileParts? cs
  | .hosted => authorityParts? scheme .hosted atEnd (cs.dropWhile SchemeKind.hosted.isSlash)
  | .other  =>
    match cs with
    | '/' :: '/' :: rest => authorityParts? scheme .other atEnd rest
    | '/' :: rest        => some (none, .rooted (SchemeKind.other.rooted rest))
    | _                  => some (none, .plain (Percent.encode Percent.controls cs))

/-- The set of characters encoded in a query. -/
def SchemeKind.querySet (k : SchemeKind) : Percent.CharSet :=
  if k.isSpecial then Percent.specialQuerySet else Percent.querySet

/-- Reads a URI; `none` when it has no scheme or a part of it is malformed. -/
def parse (text : String) : Option Uri := do
  let (scheme, rest) ← scheme? (cleaned text.toList)
  let (rest, fragment) := cutAt '#' rest
  let (rest, query) := cutAt '?' rest
  let (authority, path) ← parts? scheme (query.isNone && fragment.isNone) rest
  return {
    scheme, authority, path,
    query    := query.map (Percent.encode (SchemeKind.ofName scheme).querySet),
    fragment := fragment.map (Percent.encode Percent.fragmentSet) }

end Outline.Uri
