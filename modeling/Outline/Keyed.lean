/-!
# Association lists in key order

Groups, edit sets and buffers are lists of pairs kept in increasing order of their keys, so that
they are listed in the order in which they are shown.
-/

namespace Outline

/-- Pairs in increasing order of their keys. -/
abbrev Keyed (κ α : Type) := List (κ × α)

namespace Keyed

variable {κ α : Type} [Ord κ]

/-- The value under a key. -/
def get? (k : κ) : Keyed κ α → Option α
  | []           => none
  | (k', v) :: r => if compare k k' = .eq then some v else get? k r

/-- Puts `f old` under a key, where `old` is the value there so far. -/
def upsert (k : κ) (f : Option α → α) : Keyed κ α → Keyed κ α
  | []           => [(k, f none)]
  | (k', v) :: r =>
    match compare k k' with
    | .lt => (k, f none) :: (k', v) :: r
    | .eq => (k', f (some v)) :: r
    | .gt => (k', v) :: upsert k f r

/-- Puts a value under a key, in place of the one there. -/
def insert (k : κ) (v : α) (m : Keyed κ α) : Keyed κ α := upsert k (fun _ => v) m

/-- Removes a key. -/
def erase (k : κ) : Keyed κ α → Keyed κ α
  | []           => []
  | (k', v) :: r => if compare k k' = .eq then r else (k', v) :: erase k r

/-- Adds values at the end of the list under a key. -/
def append (k : κ) (vs : List α) (m : Keyed κ (List α)) : Keyed κ (List α) :=
  upsert k (fun old => old.getD [] ++ vs) m

/-- Joins the lists that are given for one key, in the order in which they are given. -/
def gather (pairs : List (κ × List α)) : Keyed κ (List α) :=
  pairs.foldl (fun m p => append p.1 p.2 m) []

/-- The last value given for a key wins. -/
def ofList (pairs : List (κ × α)) : Keyed κ α :=
  pairs.foldl (fun m p => insert p.1 p.2 m) []

/-- Collects values under their keys, keeping the order of the values. -/
def group (key : α → κ) (values : List α) : Keyed κ (List α) :=
  values.foldl (fun m v => append (key v) [v] m) []

end Keyed

end Outline
