/-!
# Length units of text

A text is measured in three units: characters, the bytes of its UTF-8 form, and the UTF-16 units
in which columns are counted. Text is cut at byte offsets, always between whole characters.
-/

namespace Outline

/-! ### Measuring -/

/-- Number of UTF-16 units of a character: two beyond the basic plane, else one. -/
def units16 (c : Char) : Nat := if c.toNat < 0x10000 then 1 else 2

/-- Number of bytes of the UTF-8 form. -/
def utf8Length (cs : List Char) : Nat := cs.foldr (fun c n => c.utf8Size + n) 0

/-- Number of UTF-16 units. -/
def utf16Length (cs : List Char) : Nat := cs.foldr (fun c n => units16 c + n) 0

@[simp] theorem utf8Length_nil : utf8Length [] = 0 := rfl

@[simp] theorem utf8Length_cons (c : Char) (cs : List Char) :
    utf8Length (c :: cs) = c.utf8Size + utf8Length cs := rfl

@[simp] theorem utf8Length_append (as bs : List Char) :
    utf8Length (as ++ bs) = utf8Length as + utf8Length bs := by
  induction as with
  | nil => simp
  | cons a as ih => simp [ih, Nat.add_assoc]

@[simp] theorem utf16Length_nil : utf16Length [] = 0 := rfl

@[simp] theorem utf16Length_cons (c : Char) (cs : List Char) :
    utf16Length (c :: cs) = units16 c + utf16Length cs := rfl

@[simp] theorem utf16Length_append (as bs : List Char) :
    utf16Length (as ++ bs) = utf16Length as + utf16Length bs := by
  induction as with
  | nil => simp
  | cons a as ih => simp [ih, Nat.add_assoc]

/-! ### Cutting at a byte offset -/

/-- The whole characters that end at or before byte `n`. -/
def takeBytes : Nat → List Char → List Char
  | _, []      => []
  | n, c :: cs => if c.utf8Size ≤ n then c :: takeBytes (n - c.utf8Size) cs else []

/-- What is left after `takeBytes`. -/
def dropBytes : Nat → List Char → List Char
  | _, []      => []
  | n, c :: cs => if c.utf8Size ≤ n then dropBytes (n - c.utf8Size) cs else c :: cs

@[simp] theorem takeBytes_append_dropBytes (n : Nat) (cs : List Char) :
    takeBytes n cs ++ dropBytes n cs = cs := by
  induction cs generalizing n with
  | nil => rfl
  | cons c cs ih => by_cases h : c.utf8Size ≤ n <;> simp [takeBytes, dropBytes, h, ih]

end Outline
