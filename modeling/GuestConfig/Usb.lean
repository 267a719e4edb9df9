import GuestConfig.Plan.Placement
import GuestConfig.Text.Hex
import GuestConfig.Value.Reader

/-!
# USB devices

A USB port of a guest is connected to a device of the host, which is named by its number, by the
port that it is plugged into or by a mapping, or to a device of the operator's own machine through
the remote console.

## What is here

* `UsbDeviceId`, `UsbPort` — the two ways of naming a device directly.
* `UsbSource`, `UsbDevice` — what a port of the guest is connected to.
* `UsbDevice.decode`, `UsbDevice.text` — the two directions.
-/

set_option autoImplicit false

namespace GuestConfig

open Text (isDigits isHexNumber splitOn splitOnce)

/-- The number of a device: vendor and product in four hexadecimal digits each, between a colon. -/
def isUsbDeviceId (cs : List Char) : Bool :=
  match splitOnce ':' cs with
  | some (vendor, product) => isHexNumber 4 vendor && isHexNumber 4 product
  | none => false

/-- A number in a port: digits, at least one of them. -/
def isPortNumber (cs : List Char) : Bool :=
  !cs.isEmpty && isDigits cs

/-- A port: the number of the bus, a hyphen, and the numbers of the ports on the way between
dots. -/
def isUsbPort (cs : List Char) : Bool :=
  match splitOnce '-' cs with
  | some (bus, ports) => isPortNumber bus && (splitOn '.' ports).all isPortNumber
  | none => false

/-- The number of a USB device. -/
abbrev UsbDeviceId : Type :=
  Checked (.of isUsbDeviceId .usbDeviceId)

/-- A USB port of the host. -/
abbrev UsbPort : Type :=
  Checked (.of isUsbPort .usbPort)

/-- What a USB port of a guest is connected to. -/
inductive UsbSource where
  /-- A device with a given number. -/
  | device (id : UsbDeviceId)
  /-- The device of a mapping. -/
  | mapping (name : MappingName)
  /-- Whatever is plugged into a port. -/
  | port (path : UsbPort)
  /-- A device of the operator's machine. -/
  | spice
  deriving DecidableEq

/-- A USB device of a guest. -/
structure UsbDevice where
  /-- What it is connected to. -/
  source : UsbSource
  /-- Whether it sits on a controller of the third version. -/
  usb3 : Bool
  deriving DecidableEq

/-! ## The source of a device -/

namespace UsbSource

/-- A source as an option. -/
def entries : UsbSource → List Entry
  | device id => OptionList.pair "host" id.text
  | mapping name => OptionList.pair "mapping" name.text
  | port path => OptionList.pair "host" path.text
  | spice => OptionList.pair "host" "spice"

/-- The source that the host is named by: a number has a colon, and a port has none. -/
def decodeHost (s : String) : Except WireError UsbSource :=
  if s = "spice" then .ok spice
  else if ':' ∈ s.toList then (Checked.decode s).map device
  else (Checked.decode s).map port

/-- The source in a list of options; a mapping goes first, and a host may stand without a name. -/
def ofOptions (options : OptionList) : Except WireError UsbSource :=
  match options.get? "mapping", (options.get? "host").or options.leading? with
  | some name, _ => (Checked.decode name).map mapping
  | none, some host => decodeHost host
  | none, none => .error (.missingOption "host")

/-- Reads a source. -/
def ofValue? (d : Dialect) (v : Value) : Option UsbSource := do
  match ← v.tagged? d "type" "id" with
  | ("device", some content) => content.checked?.map device
  | ("mapping", some content) => content.checked?.map mapping
  | ("port", some content) => content.checked?.map port
  | ("spice", content) => if Value.isAbsent content then some spice else none
  | _ => none

/-- Writes a source. -/
def toValue : UsbSource → Value
  | device id => .ofTagged "type" "device" "id" (.ofChecked id)
  | mapping name => .ofTagged "type" "mapping" "id" (.ofChecked name)
  | port path => .ofTagged "type" "port" "id" (.ofChecked path)
  | spice => .ofTag "type" "spice"

end UsbSource

/-! ## Devices -/

namespace UsbDevice

/-- The stem of the keys of USB devices. -/
def stem : String :=
  "usb"

/-- A device as options. -/
def entries (device : UsbDevice) : List Entry :=
  device.source.entries ++ OptionList.flag "usb3" device.usb3

/-- A device as it is stored. -/
def text (device : UsbDevice) : String :=
  (OptionList.mk device.entries).text

/-- The device in a list of options. -/
def ofOptions (options : OptionList) : Except WireError UsbDevice := do
  return {
    source := ← UsbSource.ofOptions options
    usb3 := (← options.flag? "usb3").getD false }

/-- Reads a stored device. -/
def decode (s : String) : Except WireError UsbDevice :=
  ofOptions (.parse s)

/-- The USB devices of a guest. -/
def ofWire (w : Wire) : Except WireError (Option (SlotMap .usb UsbDevice)) :=
  w.slots .usb stem decode

/-- USB devices can be plugged while the guest runs. -/
def placement : Placement UsbDevice :=
  .byText text false false

/-- Reads a device. -/
def ofValue? (d : Dialect) (v : Value) : Option UsbDevice := do
  let fields ← v.fields? ["source", "usb3"]
  return {
    source := ← fields.required "source" (UsbSource.ofValue? d)
    usb3 := ← fields.withDefault "usb3" false Value.flag? }

/-- Writes a device. -/
def toValue (device : UsbDevice) : Value :=
  .object [("source", device.source.toValue), ("usb3", .bool device.usb3)]

end UsbDevice

end GuestConfig
