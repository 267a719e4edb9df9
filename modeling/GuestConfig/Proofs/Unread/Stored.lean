import GuestConfig.Proofs.Frame
import GuestConfig.Proofs.Unread.Codec

/-!
# What a later version stores

A guest may have been configured by a later version of the product, which stores more than this
library knows.  That does not keep the library from decoding what it does know: a configuration is
decoded key by key, and a field is decoded from the options that its codec asks for.

## What is here

* `Wire.decoded?_insert_text`, `Wire.slots_insert_text` — a key and a family with another text that
  decodes to the same.
* `OptionField` — the fields that are lists of options, what each is decoded to, which options that
  takes, and where it is stored.
* `OptionField.decode_of_addsUnread` — **an option that is not read does not change what a field is
  decoded to**, and `OptionField.readsAlike_insert` says the same for the setting of the field.
* `Configuration.ofWire_forwardCompatible` — **a configuration is decoded alike with keys and
  options that are not read.**
-/

set_option autoImplicit false

namespace GuestConfig

open OptionList (AddsUnread IsUnread)
open Setting (owner? owner?_of_reads)

/-! ## Another text under a key -/

namespace Wire

variable {α : Type} {w : Wire} {key s s' : String} {decode : String → Except WireError α}

theorem text?_insert_self (w : Wire) (key s : String) :
    text? (w.insert key (.text s)) key = .ok (some s) :=
  text?_of_get? (SortedMap.get?_insert_self w key _)

/-- **A key with another text that decodes to the same.** -/
theorem decoded?_insert_text (hs : w.text? key = .ok (some s)) (h : decode s' = decode s) :
    decoded? (w.insert key (.text s')) key decode = w.decoded? key decode := by
  rw [decoded?_eq_of_text? hs, decoded?_eq_of_text? (text?_insert_self w key s'), h]

/-- **A family with another text that decodes to the same.** -/
theorem slots_insert_text {kind : SlotKind} {stem : String} (hs : w.text? key = .ok (some s))
    (h : decode s' = decode s) :
    slots (w.insert key (.text s')) kind stem decode = w.slots kind stem decode := by
  obtain ⟨v, hv, -⟩ := field?_eq_some_iff.1 hs
  rw [SortedMap.insert_eq_mapValues hv]
  refine slots_mapValues fun slot key' v' hv' ↦ ?_
  split
  · next heq =>
    subst heq
    rw [device_eq hv', ← decoded?_insert_text hs h, ← device_eq (SortedMap.get?_insert_self w _ _)]
  · rfl

end Wire

/-! ## Settings with another text -/

section settings

variable {w : Wire} {key s s' : String}

/-- A CPU with another text for the model and the features. -/
theorem Cpu.ofWire_insert_text (hs : w.text? modelKey = .ok (some s))
    (hmodel : readModel (.parse s') = readModel (.parse s))
    (hflags : ((OptionList.parse s').get? "flags").map CpuFlags.parse =
      ((OptionList.parse s).get? "flags").map CpuFlags.parse) :
    ofWire (w.insert modelKey (.text s')) = ofWire w := by
  have hne {key : String} (hkey : key ≠ modelKey) :
      (w.insert modelKey (.text s')).get? key = w.get? key :=
    SortedMap.get?_insert_of_ne w _ hkey
  simp (disch := decide) only [ofWire, hs, Wire.text?_insert_self, Wire.decoded?_congr (hne _),
    Wire.word?_congr (hne _), Wire.flag?_congr (hne _)]
  simp only [Option.map_some, Option.bind_some, bind, Except.bind, hmodel, hflags]

theorem Memory.ofWire_insert_text (hs : w.get? capacityKey = some (.text s))
    (h : decodeCapacity s' = decodeCapacity s) :
    ofWire (w.insert capacityKey (.text s')) = ofWire w := by
  have hcapacity : capacityOfWire (w.insert capacityKey (.text s')) = capacityOfWire w := by
    simp only [capacityOfWire, hs, SortedMap.get?_insert_self, h]
  have hne {key : String} (hkey : key ≠ capacityKey) :
      (w.insert capacityKey (.text s')).get? key = w.get? key :=
    SortedMap.get?_insert_of_ne w _ hkey
  simp (disch := decide) only [ofWire, hcapacity, Wire.word?_congr (hne _)]

theorem CloudInit.ofWire_insert_custom (hs : w.text? customKey = .ok (some s))
    (h : CustomSections.ofOptions (.parse s') = CustomSections.ofOptions (.parse s)) :
    ofWire (w.insert customKey (.text s')) = ofWire w := by
  have hcustom : Wire.decoded? (w.insert customKey (.text s')) customKey
      (fun s ↦ CustomSections.ofOptions (.parse s)) =
        w.decoded? customKey fun s ↦ CustomSections.ofOptions (.parse s) :=
    Wire.decoded?_insert_text hs h
  have hne {key : String} (hkey : key ≠ customKey) :
      (w.insert customKey (.text s')).get? key = w.get? key :=
    SortedMap.get?_insert_of_ne w _ hkey
  have hslots : Wire.slots (w.insert customKey (.text s')) .network addressingStem
      Addressing.decode = w.slots .network addressingStem Addressing.decode :=
    Wire.slots_congr fun key hkey ↦ hne fun heq ↦ absurd (heq ▸ hkey) (by decide +kernel)
  simp (disch := decide) only [ofWire, dnsOfWire, hcustom, hslots, Wire.decoded?_congr (hne _),
    Wire.text?_congr (hne _), Wire.flag?_congr (hne _)]

theorem CloudInit.ofWire_insert_addressing
    (hkey : (Slot.ofKey? addressingStem key : Option (Slot .network)).isSome)
    (hs : w.text? key = .ok (some s)) (h : Addressing.decode s' = Addressing.decode s) :
    ofWire (w.insert key (.text s')) = ofWire w := by
  have hslots : Wire.slots (w.insert key (.text s')) .network addressingStem Addressing.decode =
      w.slots .network addressingStem Addressing.decode :=
    Wire.slots_insert_text hs h
  -- no single key of the setting is a slot of the family
  have hsingle {key' : String}
      (hkey' : (Slot.ofKey? addressingStem key' : Option (Slot .network)).isSome = false) :
      (w.insert key (.text s')).get? key' = w.get? key' :=
    SortedMap.get?_insert_of_ne w _ fun heq ↦
      Bool.false_ne_true (hkey'.symm.trans (heq ▸ hkey))
  simp (disch := decide +kernel) only [ofWire, dnsOfWire, hslots,
    Wire.decoded?_congr (hsingle _), Wire.text?_congr (hsingle _), Wire.flag?_congr (hsingle _)]

theorem Disks.ofWire_insert_text (hs : w.text? key = .ok (some s))
    (h : Drive.decode s' = Drive.decode s) : ofWire (w.insert key (.text s')) = ofWire w := by
  have hslots {kind : SlotKind} {stem : String} :
      Wire.slots (w.insert key (.text s')) kind stem Drive.decode =
        w.slots kind stem Drive.decode :=
    Wire.slots_insert_text hs h
  simp only [ofWire, hslots]

end settings

/-! ## Fields that are lists of options -/

/-- The fields that are lists of options. -/
inductive OptionField where
  /-- The agent. -/
  | agent
  /-- The model of the CPU. -/
  | cpu
  /-- The capacity of the memory. -/
  | memory
  /-- The cloud-init documents. -/
  | custom
  /-- The addresses of an interface. -/
  | addressing
  /-- A network interface. -/
  | network
  /-- A drive. -/
  | drive
  /-- A PCI device. -/
  | pci
  /-- A USB device. -/
  | usb
  /-- The TPM. -/
  | tpm

namespace OptionField

/-- What a field is decoded to. -/
def Entity : OptionField → Type
  | agent => Agent
  | cpu => Option String × Option CpuFlags
  | memory => UInt32
  | custom => CustomSections
  | addressing => Addressing
  | network => NetworkInterface
  | drive => Drive
  | pci => PciDevice
  | usb => UsbDevice
  | tpm => Tpm

/-- Reads a field. -/
def decode : (field : OptionField) → String → Except WireError field.Entity
  | agent, s => Agent.ofOptions (.parse s)
  | cpu, s =>
    .ok (Cpu.readModel (.parse s), ((OptionList.parse s).get? "flags").map CpuFlags.parse)
  | memory, s => Memory.decodeCapacity s
  | custom, s => CustomSections.ofOptions (.parse s)
  | addressing, s => Addressing.decode s
  | network, s => NetworkInterface.decode s
  | drive, s => Drive.decode s
  | pci, s => PciDevice.decode s
  | usb, s => UsbDevice.decode s
  | tpm, s => Tpm.decode s

/-- The options that are read of a field. -/
def optionNames : OptionField → List String
  | agent => Agent.optionNames
  | cpu => Cpu.optionNames
  | memory => Memory.optionNames
  | custom => CustomSections.optionNames
  | addressing => Addressing.optionNames
  | network => NetworkInterface.optionNames
  | drive => Drive.optionNames
  | pci => PciDevice.optionNames
  | usb => UsbDevice.optionNames
  | tpm => Tpm.optionNames

/-- The keys that a field is stored under. -/
def HasKey : OptionField → String → Prop
  | agent, key => key = Agent.key
  | cpu, key => key = Cpu.modelKey
  | memory, key => key = Memory.capacityKey
  | custom, key => key = CloudInit.customKey
  | addressing, key => (Slot.ofKey? CloudInit.addressingStem key : Option (Slot .network)).isSome
  | network, key => (Slot.ofKey? NetworkInterface.stem key : Option (Slot .network)).isSome
  | drive, key => ∃ bus : Bus, (Slot.ofKey? bus.stem key : Option (Slot bus.kind)).isSome
  | pci, key => (Slot.ofKey? PciDevice.stem key : Option (Slot .pci)).isSome
  | usb, key => (Slot.ofKey? UsbDevice.stem key : Option (Slot .usb)).isSome
  | tpm, key => key = Tpm.key

/-- A field is stored as a text under one of its keys.  The capacity of the memory is a list of
options only if it is a text and not a number. -/
def IsStored (field : OptionField) (w : Wire) (key s : String) : Prop :=
  field.HasKey key ∧
    match field with
    | memory => w.get? key = some (.text s)
    | _ => w.text? key = .ok (some s)

/-- The setting that a field is about. -/
def setting : OptionField → Setting
  | agent => .agent
  | cpu => .cpu
  | memory => .memory
  | custom => .cloudInit
  | addressing => .cloudInit
  | network => .networks
  | drive => .disks
  | pci => .pciDevices
  | usb => .usbs
  | tpm => .tpm

theorem reads_of_hasKey {field : OptionField} {key : String} (h : field.HasKey key) :
    field.setting.Reads key := by
  cases field with
  | agent => exact .inl (List.mem_singleton.2 h)
  | cpu => exact .inl (h ▸ by decide)
  | memory => exact .inl (h ▸ by decide)
  | custom => exact .inl (h ▸ by decide)
  | tpm => exact .inl (List.mem_singleton.2 h)
  | addressing => exact .inr ⟨_, List.mem_singleton.2 rfl, h⟩
  | network => exact .inr ⟨_, List.mem_singleton.2 rfl, h⟩
  | pci => exact .inr ⟨_, List.mem_singleton.2 rfl, h⟩
  | usb => exact .inr ⟨_, List.mem_singleton.2 rfl, h⟩
  | drive =>
    obtain ⟨bus, hslot⟩ := h
    exact .inr ⟨_, List.mem_map.2 ⟨bus, by cases bus <;> decide, rfl⟩, hslot⟩

/-- **An option that is not read does not change what a field is decoded to.** -/
theorem decode_of_addsUnread {field : OptionField} {s s' : String} {entity : field.Entity}
    (h : AddsUnread field.optionNames s s') (hs : field.decode s = .ok entity) :
    field.decode s' = .ok entity := by
  cases field with
  | agent => exact (Agent.ofOptions_congr h.agreesOn).trans hs
  | cpu =>
    have hmodel := Cpu.readModel_congr h.agreesOn
    have hflags := h.agreesOn.get? (by decide : "flags" ∈ Cpu.optionNames)
    rw [decode, hmodel, hflags]
    exact hs
  | memory => exact (Memory.decodeCapacity_congr h.agreesOn).trans hs
  | custom => exact (CustomSections.ofOptions_congr h.agreesOn).trans hs
  | addressing => exact (congrArg Except.ok (Addressing.ofOptions_congr h.agreesOn)).trans hs
  | network => exact (NetworkInterface.ofOptions_congr h.agreesOn).trans hs
  | drive => exact (Drive.ofOptions_congr h.agreesOn).trans hs
  | pci => exact (PciDevice.ofOptions_congr h.agreesOn).trans hs
  | usb => exact (UsbDevice.ofOptions_congr h.agreesOn).trans hs
  | tpm => exact Tpm.decode_congr h.agreesOn hs

/-- **A setting with another text for a field that decodes to the same.** -/
theorem readsAlike_insert {field : OptionField} {w : Wire} {key s s' : String}
    (hstored : field.IsStored w key s) (h : field.decode s' = field.decode s) :
    field.setting.ReadsAlike (w.insert key (.text s')) w := by
  obtain ⟨hkey, hs⟩ := hstored
  cases field with
  | agent =>
    subst hkey
    exact Wire.decoded?_insert_text hs h
  | cpu =>
    subst hkey
    obtain ⟨hmodel, hflags⟩ := Prod.mk.inj (Except.ok.inj h)
    exact Cpu.ofWire_insert_text hs hmodel hflags
  | memory =>
    subst hkey
    exact Memory.ofWire_insert_text hs h
  | custom =>
    subst hkey
    exact CloudInit.ofWire_insert_custom hs h
  | tpm =>
    subst hkey
    exact Wire.decoded?_insert_text hs h
  | addressing => exact CloudInit.ofWire_insert_addressing hkey hs h
  | drive => exact Disks.ofWire_insert_text hs h
  | network => exact Wire.slots_insert_text hs h
  | pci => exact Wire.slots_insert_text hs h
  | usb => exact Wire.slots_insert_text hs h

end OptionField

/-! ## Forward compatibility -/

namespace Configuration

/-- **A configuration is decoded alike with keys and options that are not read.**  A key that no
setting is decoded from may have any value.  A field that decodes may have an option more, anywhere
behind its first, that its codec does not ask for. -/
theorem ofWire_forwardCompatible (w : Wire) :
    (∀ (key : String) (v : Value), (∀ s : Setting, ¬s.Reads key) →
      ofWire (w.insert key v) = ofWire w) ∧
    ∀ (field : OptionField) (s s' : String) (entity : field.Entity),
      field.decode s = .ok entity → AddsUnread field.optionNames s s' →
        field.decode s' = .ok entity ∧
        ∀ key, field.IsStored w key s → ofWire (w.insert key (.text s')) = ofWire w := by
  constructor
  · intro key v hunread
    refine ofWire_congr fun s ↦ Setting.readsAlike_of_reads fun key' hkey' ↦
      SortedMap.get?_insert_of_ne w v ?_
    rintro rfl
    exact hunread s hkey'
  · intro field s s' entity hs hadds
    have hs' : field.decode s' = .ok entity := OptionField.decode_of_addsUnread hadds hs
    refine ⟨hs', fun key hstored ↦ ofWire_congr fun other ↦ ?_⟩
    by_cases hother : other = field.setting
    · subst hother
      exact OptionField.readsAlike_insert hstored (hs'.trans hs.symm)
    · -- the key belongs to the setting of the field, and so no other is decoded from it
      have howner : owner? key = some field.setting :=
        owner?_of_reads (OptionField.reads_of_hasKey hstored.1)
      refine Setting.readsAlike_of_owner fun key' hkey' ↦
        SortedMap.get?_insert_of_ne w _ fun heq ↦ hother ?_
      exact Option.some.inj (hkey'.symm.trans (heq ▸ howner))

/-- A guest with a network interface. -/
def bridgedGuest : Wire :=
  .ofList [("net0", .text "virtio=BC:24:11:AA:00:01,bridge=vmbr0")]

/-- A hook script and an option of the card are not read. -/
theorem ofWire_forwardCompatible_of_bridged :
    ∃ c : Configuration,
      ofWire bridgedGuest = .ok c ∧ c.networks.map SortedMap.keys = some [⟨0, by decide⟩] ∧
      ofWire (bridgedGuest.insert "hookscript" (.text "local:snippets/start.pl")) = .ok c ∧
      ofWire (bridgedGuest.insert "net0"
        (.text "virtio=BC:24:11:AA:00:01,duplex=full,bridge=vmbr0")) = .ok c := by
  have hunread (s : Setting) : ¬s.Reads "hookscript" := fun h ↦
    absurd ((owner?_of_reads h).symm.trans rfl) (Option.some_ne_none s)
  have hcard : (OptionList.parse "virtio=BC:24:11:AA:00:01").entries ≠ [] := by decide +kernel
  have hduplex : IsUnread NetworkInterface.optionNames "duplex" "full" :=
    ⟨by decide, by decide, by decide +kernel⟩
  have hadds : AddsUnread NetworkInterface.optionNames "virtio=BC:24:11:AA:00:01,bridge=vmbr0"
      "virtio=BC:24:11:AA:00:01,duplex=full,bridge=vmbr0" :=
    @AddsUnread.between _ "virtio=BC:24:11:AA:00:01" "bridge=vmbr0" "duplex" "full" hcard hduplex
  have h : ((ofWire bridgedGuest).toOption.bind fun c ↦ c.networks.map SortedMap.keys) =
      some [⟨0, by decide⟩] := by decide +kernel
  obtain ⟨c, hc, h⟩ := exists_of_toOption_bind h
  obtain ⟨hkeys, hoptions⟩ := ofWire_forwardCompatible bridgedGuest
  obtain ⟨-, hstored⟩ := hoptions .network _ _ _ (by rfl) hadds
  refine ⟨c, hc, h, (hkeys _ _ hunread).trans hc, (hstored "net0" ⟨rfl, rfl⟩).trans hc⟩

end Configuration

end GuestConfig
