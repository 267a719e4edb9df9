import GuestConfig.Text.Hex
import GuestConfig.Text.Natural
import GuestConfig.Text.Split

/-!
# Internet addresses

The texts that stand for addresses of the fourth and of the sixth version, and for networks.  Only
whether a text is an address matters here, not which one it is: addresses are stored as they are
written.

## What is here

* `isIpv4` — four numbers below 256 between dots, without leading zeros.
* `isIpv6` — eight groups of up to four hexadecimal digits between colons.  One run of zero groups
  may be left out, and the last two groups may be written as an address of the fourth version.
* `isNetwork` — an address with the length of its leading part after a slash.
-/

set_option autoImplicit false

namespace GuestConfig.Text

/-! ## Version 4 -/

/-- What follows one number of an address at the front of a text. -/
def afterOctet? (cs : List Char) : Option (List Char) :=
  let ds := cs.takeWhile Char.isDigit
  if ds = [] ∨ 3 < ds.length ∨ (ds.head? = some '0' ∧ 1 < ds.length) ∨ 255 < digitsValue ds then
    none
  else some (cs.drop ds.length)

/-- What follows a character at the front of a text. -/
def after? (c : Char) : List Char → Option (List Char)
  | d :: cs => if c = d then some cs else none
  | [] => none

/-- What follows an address at the front of a text. -/
def afterIpv4? (cs : List Char) : Option (List Char) := do
  let cs ← afterOctet? cs
  let cs ← after? '.' cs
  let cs ← afterOctet? cs
  let cs ← after? '.' cs
  let cs ← afterOctet? cs
  let cs ← after? '.' cs
  afterOctet? cs

/-- Whether a text is an address of version 4. -/
def isIpv4 (cs : List Char) : Bool :=
  afterIpv4? cs == some []

/-! ## Version 6 -/

/-- What follows one group at the front of a text. -/
def afterGroup? (cs : List Char) : Option (List Char) :=
  let ds := cs.takeWhile isHexDigit
  if ds = [] ∨ 4 < ds.length then none else some (cs.drop ds.length)

/-- What follows the colon in front of a group; the first group has none. -/
def afterColon? (isFirst : Bool) (cs : List Char) : Option (List Char) :=
  if isFirst then some cs else after? ':' cs

/-- As many groups as there are at the front of a text. -/
structure Groups where
  /-- The number of groups. -/
  count : Nat
  /-- Whether the last two are written as an address of version 4. -/
  endsInIpv4 : Bool
  /-- What follows them. -/
  rest : List Char

/-- Reads up to `limit` groups.  An address of version 4 counts as two and is the last. -/
def groups (isFirst : Bool) : (limit : Nat) → List Char → Groups
  | 0, cs => ⟨0, false, cs⟩
  | limit + 1, cs =>
    let embedded := if limit = 0 then none else (afterColon? isFirst cs).bind afterIpv4?
    match embedded, (afterColon? isFirst cs).bind afterGroup? with
    | some rest, _ => ⟨2, true, rest⟩
    | none, some rest =>
      let more := groups false limit rest
      ⟨more.count + 1, more.endsInIpv4, more.rest⟩
    | none, none => ⟨0, false, cs⟩

/-- Whether a text is an address of version 6: eight groups, or fewer with two colons in the place
of at least one more. -/
def isIpv6 (cs : List Char) : Bool :=
  let head := groups true 8 cs
  if head.count = 8 then head.rest.isEmpty
  else if head.endsInIpv4 then false
  else
    match dropStart [':', ':'] head.rest with
    | some rest => (groups true (7 - head.count) rest).rest.isEmpty
    | none => false

/-! ## Networks -/

/-- Whether a text is an address, a slash, and a number of bits. -/
def isNetwork (isAddress : List Char → Bool) (bits : Nat) (cs : List Char) : Bool :=
  match splitOnce '/' cs with
  | some (address, size) =>
    isAddress address && (word? size : Option UInt8).any fun n ↦ n.toNat ≤ bits
  | none => false

end GuestConfig.Text
