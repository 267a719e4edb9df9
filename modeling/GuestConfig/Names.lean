import GuestConfig.Checked

/-!
# Names of guests, pools and mappings

Three kinds of name are shared by several parts of a configuration or belong to the guest as a
whole.  All of them are short ASCII texts.

## What is here

* `GuestName` — the host name of a guest.
* `PoolName` — the pool that a guest is placed in when it is created.
* `MappingName` — a resource mapping of the cluster, which stands for a device on every host.
-/

set_option autoImplicit false

namespace GuestConfig

/-- A host name: 1 to 128 letters, digits, hyphens and dots, with a letter or a digit at either
end. -/
def isGuestName (cs : List Char) : Bool :=
  cs.length ≤ 128 && cs.head?.any Char.isAlphanum && cs.getLast?.any Char.isAlphanum &&
    cs.all fun c ↦ c.isAlphanum || c == '-' || c == '.'

/-- The name of a pool: 1 to 64 letters, digits, hyphens and underscores. -/
def isPoolName (cs : List Char) : Bool :=
  !cs.isEmpty && cs.length ≤ 64 && cs.all fun c ↦ c.isAlphanum || c == '-' || c == '_'

/-- The name of a mapping: at most 128 letters, digits, hyphens and underscores, the first of them
a letter. -/
def isMappingName (cs : List Char) : Bool :=
  cs.length ≤ 128 && cs.head?.any Char.isAlpha &&
    cs.all fun c ↦ c.isAlphanum || c == '-' || c == '_'

/-- The host name of a guest. -/
abbrev GuestName : Type :=
  Checked (.of isGuestName .guestName)

/-- The resource pool that a guest is placed in when it is created. -/
abbrev PoolName : Type :=
  Checked (.of isPoolName .poolName)

/-- The name of a resource mapping of the cluster. -/
abbrev MappingName : Type :=
  Checked (.of isMappingName .mappingName)

end GuestConfig
