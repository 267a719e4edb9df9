import GuestConfig.Description.Device
import GuestConfig.Proofs.Description.Conversion

/-!
# Descriptions of host devices that mean one device

A PCI device, a USB device and a serial port are described by keys of which exactly one is given.
What is given has to satisfy its grammar, and a mediated device needs an address, since a mapping
says itself what it stands for.

For each sort of device there is what it takes to have one meaning, the device that is meant, and
the reason if there is none; that the three fit together is proved for each of them.

## What is here

* `PciDescription.device_isExact`, `UsbDescription.device_isExact`, `SerialDescription.port_isExact`
  — **the conversions are exact**.
* `PciDescription.hasOneMeaning_iff`, `UsbDescription.hasOneMeaning_iff`,
  `SerialDescription.hasOneMeaning_iff` — a description with one meaning is one that gives a device.
-/

set_option autoImplicit false

namespace GuestConfig

open Described (ChoiceFails)

/-! ## PCI devices -/

namespace PciDescription

/-- How many of the keys for the device are given. -/
def sources (description : PciDescription) : Nat :=
  [description.mapping.isSome, description.raw.isSome].count true

/-- A description means one device: a mapping or an address is given, and a mapping is no mediated
device. -/
structure HasOneMeaning (description : PciDescription) : Prop where
  /-- One of the keys is given. -/
  one : description.sources = 1
  /-- A device of a mapping has no type. -/
  plain : description.mapping.isSome → description.mediated = none
  /-- The mapping has a name. -/
  mapping : ∀ s, description.mapping = some s → isMappingName s.toList = true
  /-- The address is one. -/
  raw : ∀ s, description.raw = some s → isPciAddressList s.toList = true
  /-- The type is one. -/
  mediated : ∀ s, description.mediated = some s → isMediatedDevice s.toList = true

/-- What a key that is given stands for. -/
inductive Names (description : PciDescription) : PciDevice → Prop
  /-- The device of a mapping. -/
  | mapping {name : MappingName} (given : description.mapping = some name.text)
    (plain : description.mediated = none) : Names description (.mapping name description.options)
  /-- The device at an address. -/
  | raw {address : PciAddress} {mediated : Option MediatedDevice}
    (given : description.raw = some address.text)
    (type : description.mediated = mediated.map Checked.text) :
    Names description (.raw address mediated description.options)

/-- What is wrong with a key that is given.  An address is looked at before the type. -/
inductive Misnames (label : String) (description : PciDescription) : DescriptionError → Prop
  /-- A mapping comes with a type. -/
  | mediatedMapping {s type : String} (given : description.mapping = some s)
    (h : description.mediated = some type) : Misnames label description (.mediatedMapping label)
  /-- The mapping has no name. -/
  | mapping {s : String} (given : description.mapping = some s)
    (plain : description.mediated = none) (h : isMappingName s.toList = false) :
    Misnames label description (.rule (.mappingName s))
  /-- The address is none. -/
  | address {s : String} (given : description.raw = some s)
    (h : isPciAddressList s.toList = false) : Misnames label description (.rule (.pciAddress s))
  /-- The type is none. -/
  | mediated {s type : String} (given : description.raw = some s)
    (haddress : isPciAddressList s.toList = true) (htype : description.mediated = some type)
    (h : isMediatedDevice type.toList = false) :
    Misnames label description (.rule (.mediatedDevice type))

/-- The device that is meant. -/
def Gives (description : PciDescription) (device : PciDevice) : Prop :=
  description.sources = 1 ∧ description.Names device

/-- Why none is meant. -/
def Fails (label : String) (description : PciDescription) : DescriptionError → Prop :=
  ChoiceFails (fun n ↦ .rule (.pciSources label n)) description.sources (description.Misnames label)

variable {description : PciDescription}

theorem sources_eq_one_iff :
    description.sources = 1 ↔
      (∃ s, description.mapping = some s ∧ description.raw = none) ∨
        ∃ s, description.mapping = none ∧ description.raw = some s := by
  rw [sources]
  cases description.mapping <;> cases description.raw <;> simp

/-- The device of a mapping. -/
def ofMapping (label : String) (description : PciDescription) (name : String) :
    Described PciDevice :=
  if description.mediated.isSome then .error (.mediatedMapping label)
  else (Described.checked name).map (.mapping · description.options)

/-- The device at an address. -/
def ofAddress (description : PciDescription) (address : String) : Described PciDevice := do
  return .raw (← Described.checked address)
    (← Described.optional Described.checked description.mediated) description.options

theorem device_eq_choose (label : String) (description : PciDescription) :
    description.device label = Described.choose (fun n ↦ .rule (.pciSources label n))
      [description.mapping.map (description.ofMapping label),
        description.raw.map description.ofAddress] := by
  rw [device]
  cases description.mapping <;> cases description.raw <;> rfl

theorem ofMapping_isExact (label : String) (description : PciDescription) (s : String) :
    (description.ofMapping label s).IsExact
      (fun device ↦ description.mediated = none ∧
        ∃ name : MappingName, name.text = s ∧ .mapping name description.options = device)
      (fun e ↦ (∃ type, description.mediated = some type ∧ e = .mediatedMapping label) ∨
        description.mediated = none ∧ isMappingName s.toList = false ∧
          e = .rule (.mappingName s)) := by
  rw [ofMapping]
  cases description.mediated with
  | some type => exact ⟨by simp, fun e ↦ by simp [eq_comm (a := e)]⟩
  | none =>
    exact ⟨by simp [map_eq_ok_iff, Described.checked_eq_ok_iff],
      by simp [map_eq_error_iff, Described.checked_of_eq_error_iff]⟩

theorem ofAddress_isExact (description : PciDescription) (s : String) :
    (description.ofAddress s).IsExact
      (fun device ↦ ∃ (address : PciAddress) (mediated : Option MediatedDevice),
        address.text = s ∧ description.mediated = mediated.map Checked.text ∧
          .raw address mediated description.options = device)
      (fun e ↦ isPciAddressList s.toList = false ∧ e = .rule (.pciAddress s) ∨
        ∃ type, isPciAddressList s.toList = true ∧ description.mediated = some type ∧
          isMediatedDevice type.toList = false ∧ e = .rule (.mediatedDevice type)) := by
  refine ⟨fun device ↦ ?_, fun e ↦ ?_⟩
  · simp only [ofAddress, bind_eq_ok_iff, pure_eq_ok_iff, Described.checked_eq_ok_iff,
      Described.optional_checked_eq_ok_iff, exists_and_left]
  · simp only [ofAddress, bind_eq_error_iff, pure_ne_error, Described.checked_of_eq_error_iff,
      Described.checked_eq_ok_iff, Described.optional_eq_error_iff, and_false, exists_false,
      or_false]
    refine or_congr_right ⟨?_, ?_⟩
    · rintro ⟨address, rfl, type, htype, h, he⟩
      exact ⟨type, address.passes, htype, h, he⟩
    · rintro ⟨type, haddress, htype, h, he⟩
      exact ⟨_, (Checked.exists_text_eq_iff.2 haddress).choose_spec, type, htype, h, he⟩

/-- **A PCI device comes out as the one that is meant.** -/
theorem device_isExact (label : String) (description : PciDescription) :
    (description.device label).IsExact description.Gives (description.Fails label) := by
  rw [device_eq_choose]
  refine Described.choose_isExact ?_ (fun device ↦ ?_) (fun e ↦ ?_)
  · simp [sources]
  -- a case for each key, first for what it can stand for and then for what can be wrong with it
  · simp only [List.mem_cons, exists_eq_or_imp, List.not_mem_nil, or_false, exists_eq_left,
      Option.map_eq_some_iff, (ofMapping_isExact _ _ _).ok_iff, (ofAddress_isExact _ _).ok_iff]
    constructor
    · rintro (⟨_, given, plain, name, rfl, rfl⟩ | ⟨_, given, address, mediated, rfl, type, rfl⟩)
      · exact .mapping given plain
      · exact .raw given type
    · rintro (⟨given, plain⟩ | ⟨given, type⟩)
      · exact .inl ⟨_, given, plain, _, rfl, rfl⟩
      · exact .inr ⟨_, given, _, _, rfl, type, rfl⟩
  · simp only [List.mem_cons, exists_eq_or_imp, List.not_mem_nil, or_false, exists_eq_left,
      Option.map_eq_some_iff, (ofMapping_isExact _ _ _).error_iff,
      (ofAddress_isExact _ _).error_iff]
    constructor
    · rintro (⟨_, given, ⟨type, h, rfl⟩ | ⟨plain, h, rfl⟩⟩ |
        ⟨_, given, ⟨h, rfl⟩ | ⟨type, haddress, htype, h, rfl⟩⟩)
      · exact .mediatedMapping given h
      · exact .mapping given plain h
      · exact .address given h
      · exact .mediated given haddress htype h
    · rintro (⟨given, h⟩ | ⟨given, plain, h⟩ | ⟨given, h⟩ | ⟨given, haddress, htype, h⟩)
      · exact .inl ⟨_, given, .inl ⟨_, h, rfl⟩⟩
      · exact .inl ⟨_, given, .inr ⟨plain, h, rfl⟩⟩
      · exact .inr ⟨_, given, .inl ⟨h, rfl⟩⟩
      · exact .inr ⟨_, given, .inr ⟨_, haddress, htype, h, rfl⟩⟩

/-- **A description with one meaning gives a device.** -/
theorem hasOneMeaning_iff : description.HasOneMeaning ↔ ∃ device, description.Gives device := by
  rw [(device_isExact "" description).exists_gives_iff, Fails,
    Described.forall_not_choiceFails_iff]
  constructor
  · intro h
    refine ⟨h.one, fun e he ↦ ?_⟩
    cases he with
    | mediatedMapping given hmediated => simp [h.plain (by simp [given])] at hmediated
    | mapping given _ hname => simp [h.mapping _ given] at hname
    | address given haddress => simp [h.raw _ given] at haddress
    | mediated _ _ given htype => simp [h.mediated _ given] at htype
  · rintro ⟨one, h⟩
    -- the type is only looked at beside an address, so that a mapping has to be ruled out first
    have plain {s : String} (given : description.mapping = some s) : description.mediated = none :=
      Option.eq_none_iff_forall_ne_some.2 fun type htype ↦ h _ (.mediatedMapping given htype)
    have haddress (s : String) (given : description.raw = some s) :
        isPciAddressList s.toList = true :=
      Bool.of_not_eq_false fun hs ↦ h _ (.address given hs)
    refine ⟨one, fun hsome ↦ ?_, fun s given ↦ ?_, haddress, fun type given ↦ ?_⟩
    · exact plain (Option.isSome_iff_exists.1 hsome).choose_spec
    · exact Bool.of_not_eq_false fun hs ↦ h _ (.mapping given (plain given) hs)
    · rcases sources_eq_one_iff.1 one with ⟨s, hmapping, -⟩ | ⟨s, -, hraw⟩
      · cases (plain hmapping).symm.trans given
      · exact Bool.of_not_eq_false fun hs ↦ h _ (.mediated hraw (haddress s hraw) given hs)

end PciDescription

/-! ## USB devices -/

namespace UsbDescription

/-- How many of the keys for the device are given. -/
def sources (description : UsbDescription) : Nat :=
  [description.id.isSome, description.mapping.isSome, description.port.isSome,
    description.spice].count true

/-- A description means one device. -/
structure HasOneMeaning (description : UsbDescription) : Prop where
  /-- One of the keys is given. -/
  one : description.sources = 1
  /-- The number of a device is one. -/
  id : ∀ s, description.id = some s → isUsbDeviceId s.toList = true
  /-- The mapping has a name. -/
  mapping : ∀ s, description.mapping = some s → isMappingName s.toList = true
  /-- The port is one. -/
  port : ∀ s, description.port = some s → isUsbPort s.toList = true

/-- What a key that is given stands for. -/
inductive Names (description : UsbDescription) : UsbSource → Prop
  /-- A device with a given number. -/
  | device {id : UsbDeviceId} (given : description.id = some id.text) :
    Names description (.device id)
  /-- The device of a mapping. -/
  | mapping {name : MappingName} (given : description.mapping = some name.text) :
    Names description (.mapping name)
  /-- Whatever is plugged into a port. -/
  | port {path : UsbPort} (given : description.port = some path.text) :
    Names description (.port path)
  /-- A device of the operator's machine. -/
  | spice (given : description.spice = true) : Names description .spice

/-- What is wrong with a key that is given. -/
inductive Misnames (description : UsbDescription) : DescriptionError → Prop
  /-- The number of a device is none. -/
  | device {s : String} (given : description.id = some s) (h : isUsbDeviceId s.toList = false) :
    Misnames description (.rule (.usbDeviceId s))
  /-- The mapping has no name. -/
  | mapping {s : String} (given : description.mapping = some s)
    (h : isMappingName s.toList = false) : Misnames description (.rule (.mappingName s))
  /-- The port is none. -/
  | port {s : String} (given : description.port = some s) (h : isUsbPort s.toList = false) :
    Misnames description (.rule (.usbPort s))

/-- The device that is meant. -/
def Gives (description : UsbDescription) (device : UsbDevice) : Prop :=
  description.sources = 1 ∧ description.Names device.source ∧ device.usb3 = description.usb3

/-- Why none is meant. -/
def Fails (label : String) (description : UsbDescription) : DescriptionError → Prop :=
  ChoiceFails (fun n ↦ .rule (.usbSources label n)) description.sources description.Misnames

variable {description : UsbDescription}

theorem source_eq_choose (label : String) (description : UsbDescription) :
    description.source label = Described.choose (fun n ↦ .rule (.usbSources label n))
      [description.id.map fun s ↦ (Described.checked s).map .device,
        description.mapping.map fun s ↦ (Described.checked s).map .mapping,
        description.port.map fun s ↦ (Described.checked s).map .port,
        if description.spice then some (.ok .spice) else none] := by
  rw [source]
  cases description.id <;> cases description.mapping <;> cases description.port <;>
    cases description.spice <;> rfl

/-- What a USB device is connected to comes out as what is meant. -/
theorem source_isExact (label : String) (description : UsbDescription) :
    (description.source label).IsExact
      (fun source ↦ description.sources = 1 ∧ description.Names source)
      (description.Fails label) := by
  rw [source_eq_choose]
  refine Described.choose_isExact ?_ (fun source ↦ ?_) (fun e ↦ ?_)
  · cases h : description.spice <;> simp [sources, h]
  · simp only [List.mem_cons, exists_eq_or_imp, List.not_mem_nil, or_false, exists_eq_left,
      Option.map_eq_some_iff, map_eq_ok_iff, Described.checked_eq_ok_iff,
      Option.ite_none_right_eq_some, Option.some.injEq, Except.ok.injEq]
    constructor
    · rintro (⟨_, given, id, rfl, rfl⟩ | ⟨_, given, name, rfl, rfl⟩ | ⟨_, given, path, rfl, rfl⟩ |
        ⟨given, rfl⟩)
      · exact .device given
      · exact .mapping given
      · exact .port given
      · exact .spice given
    · rintro (given | given | given | given)
      · exact .inl ⟨_, given, _, rfl, rfl⟩
      · exact .inr (.inl ⟨_, given, _, rfl, rfl⟩)
      · exact .inr (.inr (.inl ⟨_, given, _, rfl, rfl⟩))
      · exact .inr (.inr (.inr ⟨given, rfl⟩))
  · simp only [List.mem_cons, exists_eq_or_imp, List.not_mem_nil, or_false, exists_eq_left,
      Option.map_eq_some_iff, map_eq_error_iff, Described.checked_of_eq_error_iff,
      Option.ite_none_right_eq_some, Option.some.injEq, reduceCtorEq, and_false]
    constructor
    · rintro (⟨_, given, h, rfl⟩ | ⟨_, given, h, rfl⟩ | ⟨_, given, h, rfl⟩)
      · exact .device given h
      · exact .mapping given h
      · exact .port given h
    · rintro (⟨given, h⟩ | ⟨given, h⟩ | ⟨given, h⟩)
      · exact .inl ⟨_, given, h, rfl⟩
      · exact .inr (.inl ⟨_, given, h, rfl⟩)
      · exact .inr (.inr ⟨_, given, h, rfl⟩)

/-- **A USB device comes out as the one that is meant.** -/
theorem device_isExact (label : String) (description : UsbDescription) :
    (description.device label).IsExact description.Gives (description.Fails label) where
  ok_iff device := by
    rw [UsbDescription.device, bind_eq_ok_iff, Gives]
    simp only [(source_isExact label description).ok_iff, pure_eq_ok_iff]
    constructor
    · rintro ⟨source, ⟨one, h⟩, rfl⟩
      exact ⟨one, h, rfl⟩
    · rintro ⟨one, h, husb3⟩
      exact ⟨device.source, ⟨one, h⟩, by rw [← husb3]⟩
  error_iff e := by
    rw [UsbDescription.device, bind_eq_error_iff]
    simp only [(source_isExact label description).error_iff, pure_ne_error, and_false, exists_false,
      or_false]

/-- **A description with one meaning gives a device.** -/
theorem hasOneMeaning_iff : description.HasOneMeaning ↔ ∃ device, description.Gives device := by
  rw [(device_isExact "" description).exists_gives_iff, Fails,
    Described.forall_not_choiceFails_iff]
  constructor
  · intro h
    refine ⟨h.one, fun e he ↦ ?_⟩
    cases he with
    | device given hid => simp [h.id _ given] at hid
    | mapping given hname => simp [h.mapping _ given] at hname
    | port given hpath => simp [h.port _ given] at hpath
  · rintro ⟨one, h⟩
    exact ⟨one, fun s given ↦ Bool.of_not_eq_false fun hs ↦ h _ (.device given hs),
      fun s given ↦ Bool.of_not_eq_false fun hs ↦ h _ (.mapping given hs),
      fun s given ↦ Bool.of_not_eq_false fun hs ↦ h _ (.port given hs)⟩

end UsbDescription

/-! ## Serial ports -/

namespace SerialDescription

/-- How many of the keys for the port are given. -/
def backends (description : SerialDescription) : Nat :=
  [description.socket, description.path.isSome].count true

/-- A description means one port. -/
structure HasOneMeaning (description : SerialDescription) : Prop where
  /-- One of the keys is given. -/
  one : description.backends = 1
  /-- The path is one. -/
  path : ∀ s, description.path = some s → isSerialPath s.toList = true

/-- What a key that is given stands for. -/
inductive Names (description : SerialDescription) : SerialPort → Prop
  /-- A socket. -/
  | socket (given : description.socket = true) : Names description .socket
  /-- A device of the host. -/
  | device {path : SerialPath} (given : description.path = some path.text) :
    Names description (.device path)

/-- What is wrong with a key that is given. -/
inductive Misnames (description : SerialDescription) : DescriptionError → Prop
  /-- The path is none. -/
  | path {s : String} (given : description.path = some s) (h : isSerialPath s.toList = false) :
    Misnames description (.rule (.serialPath s))

/-- The port that is meant. -/
def Gives (description : SerialDescription) (port : SerialPort) : Prop :=
  description.backends = 1 ∧ description.Names port

/-- Why none is meant. -/
def Fails (label : String) (description : SerialDescription) : DescriptionError → Prop :=
  ChoiceFails (fun n ↦ .rule (.serialBackends label n)) description.backends description.Misnames

variable {description : SerialDescription}

theorem port_eq_choose (label : String) (description : SerialDescription) :
    description.port label = Described.choose (fun n ↦ .rule (.serialBackends label n))
      [if description.socket then some (.ok .socket) else none,
        description.path.map fun s ↦ (Described.checked s).map .device] := by
  rw [port]
  cases description.socket <;> cases description.path <;> rfl

/-- **A serial port comes out as the one that is meant.** -/
theorem port_isExact (label : String) (description : SerialDescription) :
    (description.port label).IsExact description.Gives (description.Fails label) := by
  rw [port_eq_choose]
  refine Described.choose_isExact ?_ (fun port ↦ ?_) (fun e ↦ ?_)
  · cases h : description.socket <;> simp [backends, h]
  · simp only [List.mem_cons, exists_eq_or_imp, List.not_mem_nil, or_false, exists_eq_left,
      Option.map_eq_some_iff, map_eq_ok_iff, Described.checked_eq_ok_iff,
      Option.ite_none_right_eq_some, Option.some.injEq, Except.ok.injEq]
    constructor
    · rintro (⟨given, rfl⟩ | ⟨_, given, path, rfl, rfl⟩)
      · exact .socket given
      · exact .device given
    · rintro (given | given)
      · exact .inl ⟨given, rfl⟩
      · exact .inr ⟨_, given, _, rfl, rfl⟩
  · simp only [List.mem_cons, exists_eq_or_imp, List.not_mem_nil, or_false, exists_eq_left,
      Option.map_eq_some_iff, map_eq_error_iff, Described.checked_of_eq_error_iff,
      Option.ite_none_right_eq_some, Option.some.injEq, reduceCtorEq, and_false, false_or]
    constructor
    · rintro ⟨_, given, h, rfl⟩
      exact .path given h
    · rintro ⟨given, h⟩
      exact ⟨_, given, h, rfl⟩

/-- **A description with one meaning gives a port.** -/
theorem hasOneMeaning_iff : description.HasOneMeaning ↔ ∃ port, description.Gives port := by
  rw [(port_isExact "" description).exists_gives_iff, Fails, Described.forall_not_choiceFails_iff]
  constructor
  · intro h
    refine ⟨h.one, fun e he ↦ ?_⟩
    cases he with
    | path given hpath => simp [h.path _ given] at hpath
  · rintro ⟨one, h⟩
    exact ⟨one, fun s given ↦ Bool.of_not_eq_false fun hs ↦ h _ (.path given hs)⟩

end SerialDescription

end GuestConfig
