/-!
# Cutting lists

Cutting a list at separators and trimming it at both ends.
-/

namespace Outline

/-- Cuts at every separator; the parts may be empty. -/
def splitOn {α : Type} [DecidableEq α] (separator : α) : List α → List (List α)
  | []      => [[]]
  | a :: as =>
    if a = separator then [] :: splitOn separator as
    else
      match splitOn separator as with
      | part :: parts => (a :: part) :: parts
      | []            => [[a]]

/-- Drops what satisfies `p` at the end. -/
def trimEnd {α : Type} (p : α → Bool) (as : List α) : List α := (as.reverse.dropWhile p).reverse

/-- Drops what satisfies `p` at both ends. -/
def trimBy {α : Type} (p : α → Bool) (as : List α) : List α := trimEnd p (as.dropWhile p)

end Outline
