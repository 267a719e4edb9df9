import GuestConfig.Network.Address
import GuestConfig.Network.Card
import GuestConfig.Plan.Placement
import GuestConfig.Sorted.Set
import GuestConfig.Unit.FixedPoint

/-!
# Network interfaces

A network interface has a card, an address and a bridge that it is plugged into, and may be limited
to some VLANs and to a rate.

## What is here

* `NetworkInterface` — the settings of an interface; an absent one keeps its current value, which
  is what `NetworkInterface.laidOver` says.
* `NetworkInterface.decode`, `NetworkInterface.text` — an interface as it is stored, in the two
  directions.  The card and its address are the first entry: `virtio=AA:BB:CC:DD:EE:FF`.
* `NetworkInterface.validate` — the rules: ranges, and an MTU only for a paravirtual card.
* `NetworkInterface.placement` — how interfaces are planned.  Only a change of the card, of the MTU
  or of the number of queues needs a reboot.
-/

set_option autoImplicit false

namespace GuestConfig

open Text (splitOn trim)

/-- The settings of a network interface. -/
structure NetworkInterface where
  /-- The bridge that it is plugged into. -/
  bridge : Option BridgeName := none
  /-- Whether the link is up. -/
  connected : Option Bool := none
  /-- Whether the interface is to be removed. -/
  delete : Bool := false
  /-- Whether the firewall of the host applies. -/
  firewall : Option Bool := none
  /-- The MAC address. -/
  mac : Option MacAddress := none
  /-- The card. -/
  model : Option NetworkModel := none
  /-- The largest frame. -/
  mtu : Option Mtu := none
  /-- The number of queues; zero stands for one queue. -/
  queues : Option UInt8 := none
  /-- The rate limit in kilobytes per second; zero stands for no limit. -/
  rateLimit : Option UInt32 := none
  /-- The VLAN of untagged frames; zero stands for none. -/
  nativeVlan : Option UInt16 := none
  /-- The VLANs whose frames the guest sees with their tags. -/
  taggedVlans : Option (SortedSet UInt16) := none
  deriving DecidableEq

namespace NetworkInterface

/-- The settings that result when `desired` is asked for where `current` is in effect. -/
def laidOver (desired current : NetworkInterface) : NetworkInterface where
  bridge := desired.bridge.or current.bridge
  connected := desired.connected.or current.connected
  delete := false
  firewall := desired.firewall.or current.firewall
  mac := MacAddress.laidOver desired.mac current.mac
  model := desired.model.or current.model
  mtu := desired.mtu.or current.mtu
  queues := desired.queues.or current.queues
  rateLimit := desired.rateLimit.or current.rateLimit
  nativeVlan := desired.nativeVlan.or current.nativeVlan
  taggedVlans := desired.taggedVlans.or current.taggedVlans

/-- The card of an interface. -/
def card (interface : NetworkInterface) : NetworkModel :=
  interface.model.getD .standard

/-! ## Stored interfaces -/

/-- The stem of the keys of network interfaces. -/
def stem : String :=
  "net"

/-- The places of a rate: rates are stored in megabytes per second. -/
def ratePlaces : Nat := 3

/-- The VLANs of a set between semicolons, unless there are none. -/
def trunksText? (vlans : SortedSet UInt16) : Option String :=
  if vlans.isEmpty then none
  else some (String.intercalate ";" (vlans.toList.map Word.text))

/-- An interface as options. -/
def entries (interface : NetworkInterface) : List Entry :=
  let card := Token.name interface.card
  (match interface.mac with
    | some mac => OptionList.pair card mac.text
    | none => OptionList.positional card) ++
    OptionList.optional "bridge" (interface.bridge.map Checked.text) ++
    OptionList.flag "firewall" (interface.firewall == some true) ++
    OptionList.flag "link_down" (interface.connected == some false) ++
    OptionList.optional "mtu" (interface.mtu.map fun mtu ↦ Word.text mtu.code) ++
    OptionList.optional "queues" ((interface.queues.filter (· ≠ 0)).map Word.text) ++
    OptionList.optional "rate" ((interface.rateLimit.filter (· ≠ 0)).map fun n ↦
      formatDecimal n.toNat ratePlaces) ++
    OptionList.optional "tag" ((interface.nativeVlan.filter (· ≠ 0)).map Word.text) ++
    OptionList.optional "trunks" (interface.taggedVlans.bind trunksText?)

/-- An interface as it is stored. -/
def text (interface : NetworkInterface) : String :=
  (OptionList.mk interface.entries).text

/-- The card and the address in a list of options. -/
def decodeCard (options : OptionList) :
    Except WireError (NetworkModel × Option MacAddress) := do
  let (name, mac) ←
    match options.entries with
    | [] => .error (.missingOption "model")
    | ⟨some name, mac⟩ :: _ => (Checked.decode mac).map fun mac ↦ (name, some mac)
    | ⟨none, name⟩ :: _ => .ok (name, none)
  match Token.ofName? name with
  | some model => return (model, mac)
  | none => .error (.unknownToken "network model" name)

/-- A set of VLANs. -/
def trunks? (s : String) : Option (SortedSet UInt16) :=
  let pieces := (splitOn ';' s.toList).filter (!·.isEmpty)
  (pieces.mapM fun piece ↦ Text.word? (trim piece)).map .ofList

/-- A rate limit. -/
def decodeRate (s : String) : Except WireError UInt32 := do
  let rate ← (parseDecimal s ratePlaces).mapError .size
  match Word.ofNat? rate.toNat with
  | some n => return n
  | none => .error (.invalidOption "rate" (Word.text rate))

/-- The interface in a list of options. -/
def ofOptions (options : OptionList) : Except WireError NetworkInterface := do
  let (model, mac) ← decodeCard options
  let taggedVlans ← options.read? "trunks" trunks?
  let rateLimit ← options.decoded? "rate" decodeRate
  return {
    bridge := ← options.decoded? "bridge" Checked.decode
    connected := (← options.flag? "link_down").map not
    firewall := ← options.flag? "firewall"
    mac := mac
    model := some model
    mtu := (← options.word? "mtu").map Mtu.ofCode
    queues := ← options.word? "queues"
    rateLimit := rateLimit
    nativeVlan := ← options.word? "tag"
    taggedVlans := taggedVlans }

/-- Reads a stored interface. -/
def decode (s : String) : Except WireError NetworkInterface :=
  ofOptions (.parse s)

/-- The network interfaces of a guest. -/
def ofWire (w : Wire) : Except WireError (Option (SlotMap .network NetworkInterface)) :=
  w.slots .network stem decode

/-! ## Rules -/

/-- The most queues. -/
def greatestQueues : UInt8 := 64

/-- The largest rate limit. -/
def greatestRate : UInt32 := 10240000

/-- The last VLAN. -/
def greatestVlan : UInt16 := 4094

/-- Checks an MTU that is asked for on a card. -/
def validateMtu (interface : String) (card : NetworkModel) (mtu : Mtu) :
    Except RuleError Unit := do
  match mtu with
  | .inherit => pure ()
  | .bytes n => require (Mtu.leastBytes ≤ n && n ≤ Mtu.greatestBytes) (.mtu n)
  require (card = .virtio) (.mtuModel interface)

/-- Checks an interface that is asked for, on top of the one that is there. -/
def validate (slot : Slot .network) (current : Option NetworkInterface)
    (desired : NetworkInterface) : Except RuleError Unit :=
  if desired.delete then .ok ()
  else do
    let card := (desired.model.or (current.bind model)).getD .standard
    requireOf desired.mtu (validateMtu (slot.key stem) card)
    requireOf desired.queues fun n ↦ require (n ≤ greatestQueues) (.queues n)
    requireOf desired.rateLimit fun n ↦ require (n ≤ greatestRate) (.rateLimit n)
    requireOf desired.nativeVlan fun n ↦ require (n ≤ greatestVlan) (.vlan n)
    requireOf desired.taggedVlans fun vlans ↦
      requireEach vlans.toList fun n ↦ require (1 ≤ n && n ≤ greatestVlan) (.vlan n)

/-! ## Planning -/

/-- Whether a guest has to be rebooted to see one interface in place of another. -/
def needsReboot (before after : NetworkInterface) : Bool :=
  after.card ≠ before.card || after.mtu ≠ before.mtu ||
    after.queues.getD 0 ≠ before.queues.getD 0

/-- The steps that put an interface into a slot. -/
def place (key : String) (existing : Option NetworkInterface) (desired : NetworkInterface) :
    Draft :=
  match existing with
  | none => if desired.delete then [] else [.set key (.text desired.text) false]
  | some current =>
    if desired.delete then [.delete key false]
    else
      let after := desired.laidOver current
      if after.text = current.text then []
      else [.set key (.text after.text) (needsReboot current after)]

/-- Interfaces can be plugged while the guest runs. -/
def placement : Placement NetworkInterface where
  place := place
  remove key _ := [.delete key false]

/-! ## As a document -/

/-- Reads a set of VLANs. -/
def vlans? (v : Value) : Option (SortedSet UInt16) :=
  (v.list? Value.word?).map .ofList

/-- Reads an interface. -/
def ofValue? (d : Dialect) (v : Value) : Option NetworkInterface := do
  let fields ← v.fields? ["bridge", "connected", "delete", "firewall", "mac", "model", "mtu",
    "queues", "rate_limit_kbps", "native_vlan", "tagged_vlans"]
  return {
    bridge := ← fields.optional "bridge" Value.checked?
    connected := ← fields.optional "connected" Value.flag?
    delete := ← fields.withDefault "delete" false Value.flag?
    firewall := ← fields.optional "firewall" Value.flag?
    mac := ← fields.optional "mac" Value.checked?
    model := ← fields.optional "model" (Value.token? d)
    mtu := ← fields.optional "mtu" Mtu.ofValue?
    queues := ← fields.optional "queues" Value.word?
    rateLimit := ← fields.optional "rate_limit_kbps" Value.word?
    nativeVlan := ← fields.optional "native_vlan" Value.word?
    taggedVlans := ← fields.optional "tagged_vlans" vlans? }

/-- Writes an interface. -/
def toValue (interface : NetworkInterface) : Value :=
  .object [
    ("bridge", .ofOption .ofChecked interface.bridge),
    ("connected", .ofOption .bool interface.connected),
    ("delete", .bool interface.delete),
    ("firewall", .ofOption .bool interface.firewall),
    ("mac", .ofOption .ofChecked interface.mac),
    ("model", .ofOption .ofToken interface.model),
    ("mtu", .ofOption Mtu.toValue interface.mtu),
    ("queues", .ofOption .ofWord interface.queues),
    ("rate_limit_kbps", .ofOption .ofWord interface.rateLimit),
    ("native_vlan", .ofOption .ofWord interface.nativeVlan),
    ("tagged_vlans", .ofOption (fun s ↦ .ofList .ofWord s.toList) interface.taggedVlans)]

end NetworkInterface

end GuestConfig
