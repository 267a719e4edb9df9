import GuestConfig.OptionList
import GuestConfig.Text.Internet
import GuestConfig.Value.Reader

/-!
# Addressing

How the guest sets up one network interface: by DHCP or with a fixed address, by itself in the case
of IPv6, and through which gateway.

## What is here

* `Addressing` — the settings of an interface.  An empty address or gateway removes the current
  one, an absent one keeps it.
* `Addressing.laidOver` — the settings that result from a change: asking for DHCP replaces an
  address and a gateway, and asking for an address replaces DHCP.
* `Addressing.validate` — the rules: no two ways at once, no gateway beside an automatic way, and
  well-formed addresses.
-/

set_option autoImplicit false

namespace GuestConfig

open Text (isIpv4 isIpv6 isNetwork)

/-- How the guest sets up a network interface. -/
structure Addressing where
  /-- The address of version 4, with the size of its network. -/
  ipv4Address : Option String := none
  /-- Whether DHCP gives the address of version 4. -/
  ipv4Dhcp : Bool := false
  /-- The gateway of version 4. -/
  ipv4Gateway : Option String := none
  /-- The address of version 6, with the size of its network. -/
  ipv6Address : Option String := none
  /-- Whether DHCP gives the address of version 6. -/
  ipv6Dhcp : Bool := false
  /-- Whether the guest makes an address of version 6 by itself. -/
  ipv6Slaac : Bool := false
  /-- The gateway of version 6. -/
  ipv6Gateway : Option String := none
  deriving DecidableEq, Repr

namespace Addressing

/-- A text that is not empty. -/
def nonempty? (s : Option String) : Option String :=
  s.filter (· ≠ "")

/-! ## Stored settings -/

/-- The way of getting an address of version 4. -/
def ipv4Mode? (a : Addressing) : Option String :=
  if a.ipv4Dhcp then some "dhcp" else nonempty? a.ipv4Address

/-- The way of getting an address of version 6. -/
def ipv6Mode? (a : Addressing) : Option String :=
  if a.ipv6Dhcp then some "dhcp"
  else if a.ipv6Slaac then some "auto"
  else nonempty? a.ipv6Address

/-- The settings as options. -/
def entries (a : Addressing) : List Entry :=
  OptionList.optional "ip" a.ipv4Mode? ++
    OptionList.optional "gw" (nonempty? a.ipv4Gateway) ++
    OptionList.optional "ip6" a.ipv6Mode? ++
    OptionList.optional "gw6" (nonempty? a.ipv6Gateway)

/-- The settings as they are stored. -/
def text (a : Addressing) : String :=
  (OptionList.mk a.entries).text

/-- The settings in a list of options. -/
def ofOptions (options : OptionList) : Addressing :=
  let ip := options.get? "ip"
  let ip6 := options.get? "ip6"
  { ipv4Address := ip.filter (· ≠ "dhcp")
    ipv4Dhcp := ip == some "dhcp"
    ipv4Gateway := options.get? "gw"
    ipv6Address := ip6.filter fun s ↦ s ≠ "dhcp" ∧ s ≠ "auto"
    ipv6Dhcp := ip6 == some "dhcp"
    ipv6Slaac := ip6 == some "auto"
    ipv6Gateway := options.get? "gw6" }

/-- Reads stored settings. -/
def decode (s : String) : Except WireError Addressing :=
  .ok (ofOptions (.parse s))

/-! ## Changes -/

/-- The settings of version 4 that result when `desired` is asked for where `current` is in
effect. -/
def over4 (desired current : Addressing) : Addressing :=
  if desired.ipv4Dhcp then
    { current with ipv4Dhcp := true, ipv4Address := none, ipv4Gateway := none }
  else
    { current with
      ipv4Dhcp := current.ipv4Dhcp && desired.ipv4Address.isNone
      ipv4Address := desired.ipv4Address.or current.ipv4Address
      ipv4Gateway := desired.ipv4Gateway.or current.ipv4Gateway }

/-- The settings of version 6 that result when `desired` is asked for where `current` is in
effect. -/
def over6 (desired current : Addressing) : Addressing :=
  if desired.ipv6Dhcp || desired.ipv6Slaac then
    { current with
      ipv6Dhcp := desired.ipv6Dhcp
      ipv6Slaac := desired.ipv6Slaac
      ipv6Address := none
      ipv6Gateway := none }
  else
    { current with
      ipv6Dhcp := current.ipv6Dhcp && desired.ipv6Address.isNone
      ipv6Slaac := current.ipv6Slaac && desired.ipv6Address.isNone
      ipv6Address := desired.ipv6Address.or current.ipv6Address
      ipv6Gateway := desired.ipv6Gateway.or current.ipv6Gateway }

/-- The settings that result when `desired` is asked for where `current` is in effect. -/
def laidOver (desired current : Addressing) : Addressing :=
  desired.over6 (desired.over4 current)

/-! ## Rules -/

/-- How many ways of getting an address of version 6 are asked for. -/
def ipv6Modes (a : Addressing) : Nat :=
  a.ipv6Dhcp.toNat + a.ipv6Slaac.toNat + (nonempty? a.ipv6Address).isSome.toNat

/-- Checks the settings that are asked for. -/
def validate (a : Addressing) : Except RuleError Unit := do
  let address4 := nonempty? a.ipv4Address
  let gateway4 := nonempty? a.ipv4Gateway
  let address6 := nonempty? a.ipv6Address
  let gateway6 := nonempty? a.ipv6Gateway
  require (!(a.ipv4Dhcp && address4.isSome)) .ipv4DhcpAndAddress
  require (!(a.ipv4Dhcp && gateway4.isSome)) .ipv4DhcpAndGateway
  require (a.ipv6Modes ≤ 1) .ipv6Modes
  require (!((a.ipv6Dhcp || a.ipv6Slaac) && gateway6.isSome)) .ipv6AutoAndGateway
  requireOf address4 fun s ↦ require (isNetwork isIpv4 32 s.toList) (.ipv4Address s)
  requireOf gateway4 fun s ↦ require (isIpv4 s.toList) (.ipv4Gateway s)
  requireOf address6 fun s ↦ require (isNetwork isIpv6 128 s.toList) (.ipv6Address s)
  requireOf gateway6 fun s ↦ require (isIpv6 s.toList) (.ipv6Gateway s)

/-! ## As a document -/

/-- Reads the settings. -/
def ofValue? (v : Value) : Option Addressing := do
  let fields ← v.fields? ["ipv4_address", "ipv4_dhcp", "ipv4_gateway", "ipv6_address",
    "ipv6_dhcp", "ipv6_slaac", "ipv6_gateway"]
  return {
    ipv4Address := ← fields.optional "ipv4_address" Value.text?
    ipv4Dhcp := ← fields.withDefault "ipv4_dhcp" false Value.flag?
    ipv4Gateway := ← fields.optional "ipv4_gateway" Value.text?
    ipv6Address := ← fields.optional "ipv6_address" Value.text?
    ipv6Dhcp := ← fields.withDefault "ipv6_dhcp" false Value.flag?
    ipv6Slaac := ← fields.withDefault "ipv6_slaac" false Value.flag?
    ipv6Gateway := ← fields.optional "ipv6_gateway" Value.text? }

/-- Writes the settings. -/
def toValue (a : Addressing) : Value :=
  .object [
    ("ipv4_address", .ofOption .text a.ipv4Address),
    ("ipv4_dhcp", .bool a.ipv4Dhcp),
    ("ipv4_gateway", .ofOption .text a.ipv4Gateway),
    ("ipv6_address", .ofOption .text a.ipv6Address),
    ("ipv6_dhcp", .bool a.ipv6Dhcp),
    ("ipv6_slaac", .bool a.ipv6Slaac),
    ("ipv6_gateway", .ofOption .text a.ipv6Gateway)]

end Addressing

end GuestConfig
