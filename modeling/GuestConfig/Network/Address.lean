import GuestConfig.Checked
import GuestConfig.Text.Hex
import GuestConfig.Text.Split

/-!
# Names and addresses of network interfaces

A network interface is plugged into a bridge of the host and has a MAC address.  The case of the
digits in an address does not matter, but the spelling is kept: an address that was read is written
back as it was.
-/

set_option autoImplicit false

namespace GuestConfig

open Text (isHexNumber splitOn)

/-- The name of a bridge: 1 to 15 letters, digits, underscores, hyphens and dots. -/
def isBridgeName (cs : List Char) : Bool :=
  !cs.isEmpty && cs.length ≤ 15 &&
    cs.all fun c ↦ c.isAlphanum || c == '_' || c == '-' || c == '.'

/-- A MAC address: six octets of two hexadecimal digits between colons. -/
def isMacAddress (cs : List Char) : Bool :=
  let octets := splitOn ':' cs
  octets.length == 6 && octets.all (isHexNumber 2)

/-- The name of a bridge of the host. -/
abbrev BridgeName : Type :=
  Checked (.of isBridgeName .bridge)

/-- A MAC address. -/
abbrev MacAddress : Type :=
  Checked (.of isMacAddress .macAddress)

namespace MacAddress

/-- Whether two spellings stand for one address. -/
def sameAs (a b : MacAddress) : Bool :=
  a.text.toList.map Char.toLower == b.text.toList.map Char.toLower

@[simp] theorem sameAs_self (a : MacAddress) : a.sameAs a = true := by
  simp [sameAs]

/-- The address that results when `desired` is asked for where `current` is in effect: the
spelling changes only with the address. -/
def laidOver (desired current : Option MacAddress) : Option MacAddress :=
  match desired, current with
  | some a, some b => if a.sameAs b then some b else some a
  | some a, none => some a
  | none, current => current

@[simp] theorem laidOver_self (a : Option MacAddress) : laidOver a a = a := by
  cases a <;> simp [laidOver]

end MacAddress

end GuestConfig
