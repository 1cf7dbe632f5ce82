/-!
# URIs

A URI in normal form, taken apart. Two URIs are the same when they are written the same, and they
are listed in the order of their written forms.
-/

namespace Outline

/-- What stands between `//` and the path. -/
structure Authority where
  /-- User name and password as written, with the `@` behind them; empty without. -/
  userinfo : String
  /-- Empty for a file of this machine. -/
  host     : String
  port     : Option Nat
  deriving DecidableEq, Repr, Inhabited

/-- The path of a URI. -/
inductive UriPath where
  /-- Text without a slash in front, which names nothing in a hierarchy. -/
  | plain (text : String)
  /-- Segments with a slash before each. -/
  | rooted (segments : List String)
  deriving DecidableEq, Repr, Inhabited

/-- A URI in normal form. -/
structure Uri where
  scheme    : String
  authority : Option Authority
  path      : UriPath
  query     : Option String
  fragment  : Option String
  deriving DecidableEq, Repr, Inhabited

/-- The written form of an authority, with the slashes before it. -/
def Authority.text (a : Authority) : String :=
  "//" ++ a.userinfo ++ a.host ++ (a.port.map fun n => s!":{n}").getD ""

/-- The written form of a path. -/
def UriPath.text : UriPath → String
  | plain text      => text
  | rooted segments => "".intercalate (segments.map ("/" ++ ·))

namespace Uri

/-- Keeps a path that begins with two slashes from being read as an authority. -/
def pathGuard (u : Uri) : String :=
  match u.authority, u.path with
  | none, .rooted ("" :: _ :: _) => "/."
  | _,    _                      => ""

/-- The written form. -/
def text (u : Uri) : String :=
  u.scheme ++ ":" ++ (u.authority.map Authority.text).getD "" ++ u.pathGuard ++ u.path.text ++
    (u.query.map ("?" ++ ·)).getD "" ++ (u.fragment.map ("#" ++ ·)).getD ""

instance : Ord Uri := ⟨fun u v => compare u.text v.text⟩

end Uri

end Outline
