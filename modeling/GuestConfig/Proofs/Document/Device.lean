import GuestConfig.Network.Interface
import GuestConfig.Pci
import GuestConfig.Proofs.Document.Table
import GuestConfig.Serial
import GuestConfig.Usb

/-!
# Documents of devices read back

Network interfaces, PCI devices, serial ports and USB devices.  Devices of several shapes are tables
with a tag, and one of the shapes may have no content; the readers tell them apart by the tag alone.

An MTU is the one value with an alternative spelling: it is written as a word or as a number, and
the reader would also take the number as a text.

## What is here

* `NetworkInterface.ofValue?_toValue` — **an interface reads back**, the address of its card with
  its spelling.
* `PciDevice.ofValue?_toValue`, `SerialPort.ofValue?_toValue`, `UsbDevice.ofValue?_toValue` — the
  other devices.
-/

set_option autoImplicit false

namespace GuestConfig

/-! ## Network interfaces -/

namespace Mtu

@[simp] theorem ofValue?_toValue (mtu : Mtu) : ofValue? mtu.toValue = some mtu := by
  cases mtu with
  | inherit => rfl
  | bytes n =>
    change (Value.ofWord n).word?.map bytes = _
    rw [Value.word?_ofWord, Option.map_some]

@[simp] theorem isNull_toValue (mtu : Mtu) : mtu.toValue.isNull = false := by
  cases mtu <;> rfl

end Mtu

/-- **A network interface reads back.** -/
@[simp] theorem NetworkInterface.ofValue?_toValue (d : Dialect) (interface : NetworkInterface) :
    ofValue? d interface.toValue = some interface := by
  have hvlans (s : SortedSet UInt16) : vlans? (.ofList .ofWord s.toList) = some s :=
    Value.list?_ofList_sorted Value.word?_ofWord s
  rw [ofValue?, toValue, Option.bind_eq_bind]
  refine Value.bind_fields?_object rfl (by simp) fun fields hget ↦ ?_
  simp [hget, List.lookup_cons, Value.nullable?_ofOption, hvlans]

/-! ## PCI devices -/

@[simp] theorem PciOptions.ofValue?_toValue (options : PciOptions) :
    ofValue? options.toValue = some options := by
  rw [ofValue?, toValue, Option.bind_eq_bind]
  refine Value.bind_fields?_object rfl (by simp) fun fields hget ↦ ?_
  simp [hget, List.lookup_cons, Value.nullable?_ofOption]

namespace PciDevice

/-- **A PCI device reads back.** -/
@[simp] theorem ofValue?_toValue (d : Dialect) (device : PciDevice) :
    ofValue? d device.toValue = some device := by
  cases device with
  | mapping name options =>
    rw [ofValue?, toValue, Value.tagged?_ofTagged (by decide), Option.bind_eq_bind,
      Option.bind_some]
    change mappingOfValue? _ = _
    rw [mappingOfValue?, Option.bind_eq_bind]
    refine Value.bind_fields?_object rfl (by simp) fun fields hget ↦ ?_
    simp [hget, List.lookup_cons, Fields.required]
  | raw address mediated options =>
    rw [ofValue?, toValue, Value.tagged?_ofTagged (by decide), Option.bind_eq_bind,
      Option.bind_some]
    change rawOfValue? _ = _
    rw [rawOfValue?, Option.bind_eq_bind]
    refine Value.bind_fields?_object rfl (by simp) fun fields hget ↦ ?_
    simp [hget, List.lookup_cons, Fields.required, Value.nullable?_ofOption]

end PciDevice

/-! ## Serial ports -/

/-- **A serial port reads back.** -/
@[simp] theorem SerialPort.ofValue?_toValue (d : Dialect) (port : SerialPort) :
    ofValue? d port.toValue = some port := by
  cases port <;> simp [ofValue?, toValue, Value.tagged?_ofTag, Value.tagged?_ofTagged,
    Value.isAbsent]

/-! ## USB devices -/

@[simp] theorem UsbSource.ofValue?_toValue (d : Dialect) (source : UsbSource) :
    ofValue? d source.toValue = some source := by
  cases source <;> simp [ofValue?, toValue, Value.tagged?_ofTag, Value.tagged?_ofTagged,
    Value.isAbsent]

/-- **A USB device reads back.** -/
@[simp] theorem UsbDevice.ofValue?_toValue (d : Dialect) (device : UsbDevice) :
    ofValue? d device.toValue = some device := by
  rw [ofValue?, toValue, Option.bind_eq_bind]
  refine Value.bind_fields?_object rfl (by simp) fun fields hget ↦ ?_
  simp [hget, List.lookup_cons, Fields.required]

end GuestConfig
