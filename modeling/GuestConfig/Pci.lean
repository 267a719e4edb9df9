import GuestConfig.Plan.Placement
import GuestConfig.Text.Hex
import GuestConfig.Value.Reader

/-!
# PCI devices

A PCI device of the host is handed to a guest, either through a mapping of the cluster or by its
address on the host.

## What is here

* `PciNumber`, `PciAddress`, `MediatedDevice` — the texts that a device is described with.
* `PciOptions` — what holds for both kinds of device.
* `PciDevice` — a device, with `PciDevice.decode` and `PciDevice.text` as the two directions.
-/

set_option autoImplicit false

namespace GuestConfig

open Text (dropStart isHexNumber splitOn splitOnce)

/-! ## Texts -/

/-- A vendor or device number: four hexadecimal digits after `0x`. -/
def isPciNumber (cs : List Char) : Bool :=
  (dropStart "0x".toList cs).any (isHexNumber 4)

/-- The function of a device: one digit up to seven. -/
def isPciFunction (cs : List Char) : Bool :=
  match cs with
  | [c] => '0' ≤ c && c ≤ '7'
  | _ => false

/-- Bus and device in two hexadecimal digits each, after a domain in four if there is one. -/
def isPciPosition (cs : List Char) : Bool :=
  match splitOn ':' cs with
  | [bus, device] => isHexNumber 2 bus && isHexNumber 2 device
  | [domain, bus, device] => isHexNumber 4 domain && isHexNumber 2 bus && isHexNumber 2 device
  | _ => false

/-- One address: a position, and a function after a dot if only that is meant. -/
def isPciAddress (cs : List Char) : Bool :=
  match splitOnce '.' cs with
  | some (position, function) => isPciFunction function && isPciPosition position
  | none => isPciPosition cs

/-- Addresses between semicolons. -/
def isPciAddressList (cs : List Char) : Bool :=
  (splitOn ';' cs).all isPciAddress

/-- The type of a mediated device: 1 to 128 letters, digits, hyphens and underscores. -/
def isMediatedDevice (cs : List Char) : Bool :=
  !cs.isEmpty && cs.length ≤ 128 && cs.all fun c ↦ c.isAlphanum || c == '-' || c == '_'

/-- A vendor or device number, which a guest sees instead of the real one. -/
abbrev PciNumber : Type :=
  Checked (.of isPciNumber .pciNumber)

/-- The addresses of a device on the host. -/
abbrev PciAddress : Type :=
  Checked (.of isPciAddressList .pciAddress)

/-- The type of a mediated device. -/
abbrev MediatedDevice : Type :=
  Checked (.of isMediatedDevice .mediatedDevice)

/-! ## Options -/

/-- What can be said of every PCI device. -/
structure PciOptions where
  /-- The device number that the guest sees. -/
  deviceId : Option PciNumber := none
  /-- Whether it sits on a PCI Express bus. -/
  pcie : Bool := false
  /-- Whether it is the primary graphics card of the guest. -/
  primaryGpu : Bool := false
  /-- Whether its firmware is visible to the guest. -/
  romBar : Bool := true
  /-- The subsystem device number that the guest sees. -/
  subDeviceId : Option PciNumber := none
  /-- The subsystem vendor number that the guest sees. -/
  subVendorId : Option PciNumber := none
  /-- The vendor number that the guest sees. -/
  vendorId : Option PciNumber := none
  deriving DecidableEq

namespace PciOptions

/-- The options, with the type of a mediated device where it sorts. -/
def entries (options : PciOptions) (mediated : Option MediatedDevice) : List Entry :=
  OptionList.optional "device-id" (options.deviceId.map Checked.text) ++
    OptionList.optional "mdev" (mediated.map Checked.text) ++
    OptionList.flag "pcie" options.pcie ++
    OptionList.unsetFlag "rombar" options.romBar ++
    OptionList.optional "sub-device-id" (options.subDeviceId.map Checked.text) ++
    OptionList.optional "sub-vendor-id" (options.subVendorId.map Checked.text) ++
    OptionList.optional "vendor-id" (options.vendorId.map Checked.text) ++
    OptionList.flag "x-vga" options.primaryGpu

/-- The options in a list. -/
def ofOptions (options : OptionList) : Except WireError PciOptions := do
  return {
    deviceId := ← options.checked? "device-id"
    pcie := (← options.flag? "pcie").getD false
    primaryGpu := (← options.flag? "x-vga").getD false
    romBar := (← options.flag? "rombar").getD true
    subDeviceId := ← options.checked? "sub-device-id"
    subVendorId := ← options.checked? "sub-vendor-id"
    vendorId := ← options.checked? "vendor-id" }

/-- Reads the options. -/
def ofValue? (v : Value) : Option PciOptions := do
  let fields ← v.fields? ["device_id", "pcie", "primary_gpu", "rom_bar", "sub_device_id",
    "sub_vendor_id", "vendor_id"]
  return {
    deviceId := ← fields.optional "device_id" Value.checked?
    pcie := ← fields.withDefault "pcie" false Value.flag?
    primaryGpu := ← fields.withDefault "primary_gpu" false Value.flag?
    romBar := ← fields.withDefault "rom_bar" true Value.flag?
    subDeviceId := ← fields.optional "sub_device_id" Value.checked?
    subVendorId := ← fields.optional "sub_vendor_id" Value.checked?
    vendorId := ← fields.optional "vendor_id" Value.checked? }

/-- Writes the options. -/
def toValue (options : PciOptions) : Value :=
  .object [
    ("device_id", .ofOption .ofChecked options.deviceId),
    ("pcie", .bool options.pcie),
    ("primary_gpu", .bool options.primaryGpu),
    ("rom_bar", .bool options.romBar),
    ("sub_device_id", .ofOption .ofChecked options.subDeviceId),
    ("sub_vendor_id", .ofOption .ofChecked options.subVendorId),
    ("vendor_id", .ofOption .ofChecked options.vendorId)]

end PciOptions

/-! ## Devices -/

/-- A PCI device of a guest. -/
inductive PciDevice where
  /-- The device of a mapping. -/
  | mapping (name : MappingName) (options : PciOptions)
  /-- The device at an address, or a part of it. -/
  | raw (address : PciAddress) (mediated : Option MediatedDevice) (options : PciOptions)
  deriving DecidableEq

namespace PciDevice

/-- The stem of the keys of PCI devices. -/
def stem : String :=
  "hostpci"

/-- A device as options. -/
def entries : PciDevice → List Entry
  | mapping name options => OptionList.pair "mapping" name.text ++ options.entries none
  | raw address mediated options =>
    OptionList.positional address.text ++ options.entries mediated

/-- A device as it is stored. -/
def text (device : PciDevice) : String :=
  (OptionList.mk device.entries).text

/-- The device in a list of options; a mapping goes first, and an address may stand without a
name. -/
def ofOptions (list : OptionList) : Except WireError PciDevice := do
  let options ← PciOptions.ofOptions list
  match list.get? "mapping", (list.get? "host").or list.leading? with
  | some name, _ => return mapping (← Checked.decode name) options
  | none, some address => return raw (← Checked.decode address) (← list.checked? "mdev") options
  | none, none => .error (.missingOption "host")

/-- Reads a stored device. -/
def decode (s : String) : Except WireError PciDevice :=
  ofOptions (.parse s)

/-- The PCI devices of a guest. -/
def ofWire (w : Wire) : Except WireError (Option (SlotMap .pci PciDevice)) :=
  w.slots .pci stem decode

/-- Every change of a PCI device needs a reboot. -/
def placement : Placement PciDevice :=
  .byText text true true

/-! ### As a document -/

/-- Reads the device of a mapping. -/
def mappingOfValue? (v : Value) : Option PciDevice := do
  let fields ← v.fields? ["name", "options"]
  return mapping (← fields.required "name" Value.checked?)
    (← fields.withDefault "options" { } PciOptions.ofValue?)

/-- Reads the device at an address. -/
def rawOfValue? (v : Value) : Option PciDevice := do
  let fields ← v.fields? ["id", "mdev", "options"]
  return raw (← fields.required "id" Value.checked?) (← fields.optional "mdev" Value.checked?)
    (← fields.withDefault "options" { } PciOptions.ofValue?)

/-- Reads a device. -/
def ofValue? (d : Dialect) (v : Value) : Option PciDevice := do
  match ← v.tagged? d "type" "device" with
  | ("mapping", some content) => mappingOfValue? content
  | ("raw", some content) => rawOfValue? content
  | _ => none

/-- Writes a device. -/
def toValue : PciDevice → Value
  | mapping name options =>
    .ofTagged "type" "mapping" "device" (.object [
      ("name", .ofChecked name),
      ("options", options.toValue)])
  | raw address mediated options =>
    .ofTagged "type" "raw" "device" (.object [
      ("id", .ofChecked address),
      ("mdev", .ofOption .ofChecked mediated),
      ("options", options.toValue)])

end PciDevice

end GuestConfig
