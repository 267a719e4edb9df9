/-!
# Hexadecimal digits

Addresses, numbers of devices and escaped characters are written in hexadecimal digits, and the
case of a digit never matters.
-/

set_option autoImplicit false

namespace GuestConfig.Text

/-- Whether a character is a hexadecimal digit. -/
def isHexDigit (c : Char) : Bool :=
  c.isDigit || ('a' ≤ c && c ≤ 'f') || ('A' ≤ c && c ≤ 'F')

/-- Whether a text has a given number of hexadecimal digits and nothing else. -/
def isHexNumber (width : Nat) (cs : List Char) : Bool :=
  cs.length == width && cs.all isHexDigit

/-- The value of a hexadecimal digit. -/
def hexDigit? (c : Char) : Option Nat :=
  if c.isDigit then some (c.toNat - 48)
  else if 'a' ≤ c ∧ c ≤ 'f' then some (c.toNat - 87)
  else if 'A' ≤ c ∧ c ≤ 'F' then some (c.toNat - 55)
  else none

/-- The value of a row of hexadecimal digits. -/
def hexValue? (cs : List Char) : Option Nat :=
  cs.foldlM (fun n c ↦ (hexDigit? c).map (16 * n + ·)) 0

end GuestConfig.Text
