/-!
# Percent-encoded texts

A text that has to survive inside a URL is written byte by byte: letters, digits and four marks
stand for themselves, and every other byte of the text's UTF-8 form becomes a percent sign and two
hexadecimal digits.  Reading takes back every percent sign that has two hexadecimal digits after
it, keeps all other bytes, and refuses what is no UTF-8 text in the end.

## What is here

* `isUnreserved` — the characters that stand for themselves.
* `percentEncode` and `percentDecode?` — the two directions; encoding is character by character
  (`percentEncode_append`).
* `unescape` — the bytes that an encoded text stands for, before they are read as UTF-8.
-/

set_option autoImplicit false

namespace GuestConfig.Text

/-! ## Writing -/

/-- The characters that stand for themselves. -/
def isUnreserved (c : Char) : Bool :=
  c.isAlphanum || c == '-' || c == '_' || c == '.' || c == '~'

/-- A hexadecimal digit, in upper case. -/
def hexDigit (n : Nat) : Char :=
  (Nat.digitChar n).toUpper

/-- A byte as a percent sign and two hexadecimal digits. -/
def escapeByte (b : UInt8) : List Char :=
  ['%', hexDigit (b.toNat / 16), hexDigit (b.toNat % 16)]

/-- One character: itself if it is unreserved, else the escapes of its UTF-8 bytes. -/
def percentEncodeChar (c : Char) : List Char :=
  if isUnreserved c then [c] else (String.utf8EncodeChar c).flatMap escapeByte

/-- A text with every reserved byte escaped. -/
def percentEncode (cs : List Char) : List Char :=
  cs.flatMap percentEncodeChar

@[simp] theorem percentEncode_append (cs ds : List Char) :
    percentEncode (cs ++ ds) = percentEncode cs ++ percentEncode ds :=
  List.flatMap_append

/-! ## Reading -/

/-- The value of a hexadecimal digit in either case, given as a byte. -/
def hexByte? (b : UInt8) : Option UInt8 :=
  if 0x30 ≤ b ∧ b ≤ 0x39 then some (b - 0x30)
  else if 0x41 ≤ b ∧ b ≤ 0x46 then some (b - 0x41 + 10)
  else if 0x61 ≤ b ∧ b ≤ 0x66 then some (b - 0x61 + 10)
  else none

/-- The bytes that the bytes of an encoded text stand for: a percent sign with two hexadecimal
digits is one byte, and anything else is itself. -/
def unescape : List UInt8 → List UInt8
  | [] => []
  | [a] => [a]
  | [a, b] => [a, b]
  | a :: b :: c :: rest =>
    match (if a = 0x25 then hexByte? b else none), hexByte? c with
    | some high, some low => (16 * high + low) :: unescape rest
    | _, _ => a :: unescape (b :: c :: rest)

/-- Reads an encoded text; `none` if its bytes are no UTF-8 text. -/
def percentDecode? (s : String) : Option String :=
  String.fromUTF8? (unescape s.toUTF8.data.toList).toByteArray

end GuestConfig.Text
