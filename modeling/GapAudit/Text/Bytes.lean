/-!
Places in a text that are counted in bytes.
-/

namespace GapAudit.Text

/-- The number of bytes of a text. -/
def byteSize : List Char → Nat
  | [] => 0
  | c :: s => c.utf8Size + byteSize s

/-- The characters of a text that end within its first `size` bytes. -/
def takeBytes : (size : Nat) → List Char → List Char
  | _, [] => []
  | size, c :: s => if c.utf8Size ≤ size then c :: takeBytes (size - c.utf8Size) s else []

/-- The characters of a text that start behind its first `size` bytes. -/
def dropBytes : (size : Nat) → List Char → List Char
  | _, [] => []
  | size, c :: s => if size == 0 then c :: s else dropBytes (size - c.utf8Size) s

/-- Whether a text can be split behind its first `size` bytes: that is neither within a character
nor beyond the end. -/
def splitsAt (size : Nat) (s : List Char) : Bool :=
  byteSize (takeBytes size s) == size

end GapAudit.Text
