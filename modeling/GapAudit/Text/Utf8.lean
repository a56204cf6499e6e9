/-!
Bytes read as text in which every stretch that is no character is replaced by one mark.
-/

namespace GapAudit.Text

/-- The mark that stands for bytes that are no character. -/
def replacement : Char := '\ufffd'

def isContinuation (b : UInt8) : Bool :=
  0x80 ≤ b && b < 0xc0

/-- The value of the bits that a byte adds to a character. -/
def continuationBits (b : UInt8) : Nat :=
  b.toNat % 64

/-- The character at the head of a list of bytes, or the mark, and the number of bytes it stands
for. A stretch that could not go on to be a character ends before the first byte that does not
fit. -/
def decodeHead (first : UInt8) (rest : List UInt8) : Char × Nat :=
  let n := first.toNat
  if n < 0x80 then (Char.ofNat n, 1)
  else
    let second := rest.head?
    let third := (rest.drop 1).head?
    let fourth := (rest.drop 2).head?
    let bits (b : Option UInt8) : Nat := (b.map continuationBits).getD 0
    if 0xc2 ≤ n && n ≤ 0xdf then
      if second.any isContinuation then (Char.ofNat (n % 32 * 64 + bits second), 2)
      else (replacement, 1)
    else if 0xe0 ≤ n && n ≤ 0xef then
      let fits (b : UInt8) : Bool :=
        -- neither a longer form than the character needs nor half of a surrogate pair
        isContinuation b && (n != 0xe0 || 0xa0 ≤ b) && (n != 0xed || b < 0xa0)
      if !second.any fits then (replacement, 1)
      else if !third.any isContinuation then (replacement, 2)
      else (Char.ofNat (n % 16 * 4096 + bits second * 64 + bits third), 3)
    else if 0xf0 ≤ n && n ≤ 0xf4 then
      let fits (b : UInt8) : Bool :=
        -- neither a longer form than the character needs nor a number beyond the last one
        isContinuation b && (n != 0xf0 || 0x90 ≤ b) && (n != 0xf4 || b < 0x90)
      if !second.any fits then (replacement, 1)
      else if !third.any isContinuation then (replacement, 2)
      else if !fourth.any isContinuation then (replacement, 3)
      else
        (Char.ofNat (n % 8 * 262144 + bits second * 4096 + bits third * 64 + bits fourth), 4)
    else (replacement, 1)

/-- The characters of a list of bytes of which the first `skip` belong to the character before. -/
def decodeFrom : (skip : Nat) → List UInt8 → List Char
  | _, [] => []
  | skip + 1, _ :: rest => decodeFrom skip rest
  | 0, first :: rest =>
    let (c, size) := decodeHead first rest
    c :: decodeFrom (size - 1) rest

/-- The text of a list of bytes. -/
def decodeLossy (bytes : List UInt8) : String :=
  String.ofList (decodeFrom 0 bytes)

end GapAudit.Text
