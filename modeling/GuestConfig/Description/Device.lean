import GuestConfig.Description.Error
import GuestConfig.Pci
import GuestConfig.Serial
import GuestConfig.Usb

/-!
# Describing devices of the host

A device of the host can be named in several ways.  A description has a key for each of them, and
exactly one of the keys is given.

## What is here

* `PciDescription`, `UsbDescription`, `SerialDescription` — the three sorts of device.
* `PciDescription.device`, `UsbDescription.device`, `SerialDescription.port` — what is described.
-/

set_option autoImplicit false

namespace GuestConfig

/-! ## PCI devices -/

/-- A description of a PCI device. -/
structure PciDescription where
  /-- A mapping of the cluster. -/
  mapping : Option String := none
  /-- An address on the host. -/
  raw : Option String := none
  /-- The type of a mediated device, for an address only. -/
  mediated : Option String := none
  /-- What can be said of every PCI device. -/
  options : PciOptions := { }
  deriving DecidableEq

namespace PciDescription

/-- The device that is described; `label` names it. -/
def device (label : String) (description : PciDescription) : Described PciDevice :=
  match description.mapping, description.raw with
  | some name, none =>
    if description.mediated.isSome then .error (.mediatedMapping label)
    else do return .mapping (← Described.checked name) description.options
  | none, some address => do
    return .raw (← Described.checked address)
      (← Described.optional Described.checked description.mediated) description.options
  | mapping, raw =>
    Described.broken (.pciSources label ([mapping.isSome, raw.isSome].count true))

/-- Reads a description. -/
def ofValue? (v : Value) : Option PciDescription := do
  let fields ← v.fields? ["mapping", "raw", "mdev", "options"]
  return {
    mapping := ← fields.optional "mapping" Value.text?
    raw := ← fields.optional "raw" Value.text?
    mediated := ← fields.optional "mdev" Value.text?
    options := ← fields.withDefault "options" { } PciOptions.ofValue? }

/-- Writes a description. -/
def toValue (description : PciDescription) : Value :=
  .object [
    ("mapping", .ofOption .text description.mapping),
    ("raw", .ofOption .text description.raw),
    ("mdev", .ofOption .text description.mediated),
    ("options", description.options.toValue)]

end PciDescription

/-! ## USB devices -/

/-- A description of a USB device. -/
structure UsbDescription where
  /-- The number of a device. -/
  id : Option String := none
  /-- A mapping of the cluster. -/
  mapping : Option String := none
  /-- A port of the host. -/
  port : Option String := none
  /-- Whether it is a device of the operator's machine. -/
  spice : Bool := false
  /-- Whether it sits on a controller of the third version. -/
  usb3 : Bool := false
  deriving DecidableEq, Repr

namespace UsbDescription

/-- What the device is connected to; `label` names it. -/
def source (label : String) (description : UsbDescription) : Described UsbSource :=
  match description.id, description.mapping, description.port, description.spice with
  | some id, none, none, false => (Described.checked id).map .device
  | none, some name, none, false => (Described.checked name).map .mapping
  | none, none, some path, false => (Described.checked path).map .port
  | none, none, none, true => .ok .spice
  | id, mapping, port, spice =>
    Described.broken
      (.usbSources label ([id.isSome, mapping.isSome, port.isSome, spice].count true))

/-- The device that is described; `label` names it. -/
def device (label : String) (description : UsbDescription) : Described UsbDevice := do
  return ⟨← description.source label, description.usb3⟩

/-- Reads a description. -/
def ofValue? (v : Value) : Option UsbDescription := do
  let fields ← v.fields? ["device", "mapping", "port", "spice", "usb3"]
  return {
    id := ← fields.optional "device" Value.text?
    mapping := ← fields.optional "mapping" Value.text?
    port := ← fields.optional "port" Value.text?
    spice := ← fields.withDefault "spice" false Value.flag?
    usb3 := ← fields.withDefault "usb3" false Value.flag? }

/-- Writes a description. -/
def toValue (description : UsbDescription) : Value :=
  .object [
    ("device", .ofOption .text description.id),
    ("mapping", .ofOption .text description.mapping),
    ("port", .ofOption .text description.port),
    ("spice", .bool description.spice),
    ("usb3", .bool description.usb3)]

end UsbDescription

/-! ## Serial ports -/

/-- A description of a serial port. -/
structure SerialDescription where
  /-- Whether it ends in a socket. -/
  socket : Bool := false
  /-- The device of the host that it ends in. -/
  path : Option String := none
  deriving DecidableEq, Repr

namespace SerialDescription

/-- The serial port that is described; `label` names it. -/
def port (label : String) (description : SerialDescription) : Described SerialPort :=
  match description.socket, description.path with
  | true, none => .ok .socket
  | false, some path => (Described.checked path).map .device
  | socket, path =>
    Described.broken (.serialBackends label ([socket, path.isSome].count true))

/-- Reads a description. -/
def ofValue? (v : Value) : Option SerialDescription := do
  let fields ← v.fields? ["socket", "path"]
  return {
    socket := ← fields.withDefault "socket" false Value.flag?
    path := ← fields.optional "path" Value.text? }

/-- Writes a description. -/
def toValue (description : SerialDescription) : Value :=
  .object [
    ("socket", .bool description.socket),
    ("path", .ofOption .text description.path)]

end SerialDescription

end GuestConfig
