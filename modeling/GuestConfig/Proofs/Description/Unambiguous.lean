import GuestConfig.Description.Basic
import GuestConfig.Proofs.Description.Device
import GuestConfig.Proofs.Description.Drive
import GuestConfig.Proofs.Description.Resources

/-!
# Descriptions that mean one configuration

A description consists of items: its texts, its amounts, and the entries of its families.  Each of
them is looked at by itself, and they are looked at in an order of their own, which is neither that
of a document nor that of the API.  So nothing more can go wrong with a description than with one of
its items, and what is reported is what is wrong with the first bad one.

## What is here

* `Description.Item`, `Description.items` — the items, in the order in which they are converted.
* `Description.Item.HasOneMeaning`, `Description.Item.Fails` — what it takes for an item to be
  usable, and the reason if it is not.
* `Description.Means` — the configuration that a description means.
* `Description.configuration_isExact` — **a description is converted exactly if every item has one
  meaning**, into what it means, and fails for the first item that has none.
-/

set_option autoImplicit false

namespace GuestConfig

open Described (EntryFails Fills)

namespace Description

/-! ## Items -/

/-- A part of a description that can be usable or not. -/
inductive Item where
  /-- A tag. -/
  | tag (text : String)
  /-- The affinity. -/
  | affinity (text : String)
  /-- A drive. -/
  | drive (bus : Bus) (key : String) (description : DriveDescription)
  /-- An amount of memory. -/
  | memory (field : String) (amount : MemorySize)
  /-- The host name. -/
  | name (text : String)
  /-- A network interface. -/
  | network (key : String) (interface : NetworkInterface)
  /-- A PCI device. -/
  | pci (key : String) (description : PciDescription)
  /-- The pool. -/
  | pool (text : String)
  /-- A serial port. -/
  | serial (key : String) (description : SerialDescription)
  /-- A USB device. -/
  | usb (key : String) (description : UsbDescription)

/-- The items of a part that may be absent. -/
def itemsOf {α : Type} (part : Option α) (items : α → List Item) : List Item :=
  part.elim [] items

/-- The items of a description in the order in which they are converted; the entries of a family
come in ascending order of their keys. -/
def items (description : Description) : List Item :=
  itemsOf description.tags (·.map .tag) ++
    itemsOf description.cpu (fun cpu ↦ itemsOf cpu.affinity fun s ↦ [.affinity s]) ++
    itemsOf description.disks
      (·.entries.map fun (bus, key, drive) ↦ .drive bus key drive) ++
    itemsOf description.memory (fun memory ↦
      itemsOf memory.capacity (fun amount ↦ [.memory "memory.capacity" amount]) ++
        itemsOf memory.minimum fun amount ↦ [.memory "memory.minimum" amount]) ++
    itemsOf description.name (fun s ↦ [.name s]) ++
    itemsOf description.networks
      (·.toList.map fun (key, interface) ↦ .network key interface) ++
    itemsOf description.pciDevices (·.toList.map fun (key, device) ↦ .pci key device) ++
    itemsOf description.pool (fun s ↦ [.pool s]) ++
    itemsOf description.serials (·.toList.map fun (key, port) ↦ .serial key port) ++
    itemsOf description.usbs (·.toList.map fun (key, device) ↦ .usb key device)

namespace Item

/-- An item has one meaning: a text satisfies its grammar, the key of an entry spells a slot, and
what is described is described in one way. -/
def HasOneMeaning : Item → Prop
  | tag s => tagViolation? s = none
  | affinity s => ∃ affinity, Affinity.parse s = .ok affinity
  | drive bus key description => bus.kind.HasSlot key ∧ description.HasOneMeaning
  | memory _ amount => amount.HasOneMeaning
  | name s => isGuestName s.toList = true
  | network key _ => SlotKind.network.HasSlot key
  | pci key description => SlotKind.pci.HasSlot key ∧ description.HasOneMeaning
  | pool s => isPoolName s.toList = true
  | serial key description => SlotKind.serial.HasSlot key ∧ description.HasOneMeaning
  | usb key description => SlotKind.usb.HasSlot key ∧ description.HasOneMeaning

/-- Why an item has none. -/
def Fails : Item → DescriptionError → Prop
  | tag s, e => ∃ rule, tagViolation? s = some rule ∧ e = .rule rule
  | affinity s, e => ∃ cause, Affinity.parse s = .error cause ∧ e = .affinity s cause
  | drive bus key description, e =>
    EntryFails bus.kind bus.stem DriveDescription.Fails (key, description) e
  | memory field amount, e => amount.Fails field e
  | name s, e => isGuestName s.toList = false ∧ e = .rule (.guestName s)
  | network key interface, e =>
    EntryFails .network NetworkInterface.stem (fun _ _ _ ↦ False) (key, interface) e
  | pci key description, e =>
    EntryFails .pci PciDevice.stem PciDescription.Fails (key, description) e
  | pool s, e => isPoolName s.toList = false ∧ e = .rule (.poolName s)
  | serial key description, e =>
    EntryFails .serial SerialPort.stem SerialDescription.Fails (key, description) e
  | usb key description, e =>
    EntryFails .usb UsbDevice.stem UsbDescription.Fails (key, description) e

/-- What the conversion of an item fails for. -/
def fault? : Item → Option DescriptionError
  | tag s => cause? (Described.checked s : Described Tag)
  | affinity s => cause? (CpuDescription.affinityOf s)
  | drive bus key description =>
    cause? (Described.device bus.stem DriveDescription.drive (key, description) :
      Described (Slot bus.kind × Drive))
  | memory field amount => cause? (amount.inMebibytes field)
  | name s => cause? (Described.checked s : Described GuestName)
  | network key interface =>
    cause? (Described.device NetworkInterface.stem (fun _ interface ↦ .ok interface)
      (key, interface) : Described (Slot .network × NetworkInterface))
  | pci key description =>
    cause? (Described.device PciDevice.stem PciDescription.device (key, description) :
      Described (Slot .pci × PciDevice))
  | pool s => cause? (Described.checked s : Described PoolName)
  | serial key description =>
    cause? (Described.device SerialPort.stem SerialDescription.port (key, description) :
      Described (Slot .serial × SerialPort))
  | usb key description =>
    cause? (Described.device UsbDevice.stem UsbDescription.device (key, description) :
      Described (Slot .usb × UsbDevice))

theorem network_isExact (_ : String) (interface : NetworkInterface) :
    Described.IsExact (.ok interface) (· = interface) fun _ ↦ False :=
  ⟨fun _ ↦ by simp [eq_comm], fun _ ↦ by simp⟩

/-- The conversion of an item fails for what is told. -/
theorem fault?_eq_some_iff {item : Item} {e : DescriptionError} :
    item.fault? = some e ↔ item.Fails e := by
  cases item with
  | tag s => exact cause?_eq_some_iff.trans Described.checked_eq_error_iff
  | affinity s => exact (CpuDescription.affinityOf_isExact s).cause?_eq_some_iff
  | drive bus key description =>
    exact (Described.device_isExact DriveDescription.drive_isExact _).cause?_eq_some_iff
  | memory field amount => exact (amount.inMebibytes_isExact field).cause?_eq_some_iff
  | name s => exact (Described.checked_isExact s).cause?_eq_some_iff
  | network key interface =>
    exact (Described.device_isExact network_isExact _).cause?_eq_some_iff
  | pci key description =>
    exact (Described.device_isExact PciDescription.device_isExact _).cause?_eq_some_iff
  | pool s => exact (Described.checked_isExact s).cause?_eq_some_iff
  | serial key description =>
    exact (Described.device_isExact SerialDescription.port_isExact _).cause?_eq_some_iff
  | usb key description =>
    exact (Described.device_isExact UsbDescription.device_isExact _).cause?_eq_some_iff

/-- The conversion of an item succeeds exactly if the item has one meaning. -/
theorem fault?_eq_none_iff {item : Item} : item.fault? = none ↔ item.HasOneMeaning := by
  cases item with
  | tag s =>
    rw [fault?, cause?_eq_none_iff, HasOneMeaning]
    simp only [Described.checked_eq_ok_iff]
    exact ⟨fun ⟨a, ha⟩ ↦ ha ▸ a.accepted, fun h ↦ ⟨⟨s, h⟩, rfl⟩⟩
  | affinity s => exact (CpuDescription.affinityOf_isExact s).cause?_eq_none_iff
  | drive bus key description =>
    exact (Described.cause?_device_eq_none_iff DriveDescription.drive_isExact).trans
      (and_congr_right fun _ ↦ DriveDescription.hasOneMeaning_iff.symm)
  | memory field amount =>
    exact (amount.inMebibytes_isExact field).cause?_eq_none_iff.trans
      MemorySize.hasOneMeaning_iff.symm
  | name s =>
    exact (Described.checked_isExact s).cause?_eq_none_iff.trans Checked.exists_text_eq_iff
  | network key interface =>
    exact (Described.cause?_device_eq_none_iff network_isExact).trans
      (and_iff_left ⟨interface, rfl⟩)
  | pci key description =>
    exact (Described.cause?_device_eq_none_iff PciDescription.device_isExact).trans
      (and_congr_right fun _ ↦ PciDescription.hasOneMeaning_iff.symm)
  | pool s =>
    exact (Described.checked_isExact s).cause?_eq_none_iff.trans Checked.exists_text_eq_iff
  | serial key description =>
    exact (Described.cause?_device_eq_none_iff SerialDescription.port_isExact).trans
      (and_congr_right fun _ ↦ SerialDescription.hasOneMeaning_iff.symm)
  | usb key description =>
    exact (Described.cause?_device_eq_none_iff UsbDescription.device_isExact).trans
      (and_congr_right fun _ ↦ UsbDescription.hasOneMeaning_iff.symm)

end Item

/-! ## Failures -/

section parts

variable {kind : SlotKind} {family : String} {α β : Type}

theorem cause?_part {convert : α → Described β} {item : α → Item} {part : Option α}
    (h : ∀ a, cause? (convert a) = (item a).fault?) :
    cause? (Described.optional convert part) =
      (itemsOf part fun a ↦ [item a]).findSome? Item.fault? :=
  Described.cause?_optional fun a ↦ by rw [List.findSome?_singleton, h]

theorem cause?_family {convert : String → α → Described β} {item : String × α → Item}
    {part : Option (SortedMap String α)}
    (h : ∀ entry, cause? (Described.device family convert entry : Described (Slot kind × β)) =
      (item entry).fault?) :
    cause? (Described.optional (Described.slots family convert) part :
        Described (Option (SlotMap kind β))) =
      (itemsOf part (·.toList.map item)).findSome? Item.fault? :=
  Described.cause?_optional fun _ ↦ Described.cause?_slots h

end parts

/-- A description fails for the first of its items that does. -/
theorem cause?_configuration (description : Description) :
    cause? description.configuration = description.items.findSome? Item.fault? := by
  have htags (texts : List String) :
      cause? (tagSet texts) = (texts.map .tag).findSome? Item.fault? := by
    rw [tagSet, cause?_map, cause?_mapM, List.findSome?_map]
    rfl
  have hcpu (cpu : CpuDescription) : cause? cpu.cpu =
      (itemsOf cpu.affinity fun s ↦ [.affinity s]).findSome? Item.fault? :=
    cause?_bind_pure.trans (cause?_part fun _ ↦ rfl)
  have hdisks (disks : DisksDescription) : cause? disks.disks =
      (disks.entries.map fun (bus, key, drive) ↦ Item.drive bus key drive).findSome?
        Item.fault? := by
    rw [disks.cause?_disks, List.findSome?_map]
    rfl
  have hmemory (memory : MemoryDescription) : cause? memory.memory =
      (itemsOf memory.capacity (fun amount ↦ [.memory "memory.capacity" amount]) ++
        itemsOf memory.minimum fun amount ↦ [.memory "memory.minimum" amount]).findSome?
          Item.fault? :=
    cause?_bind_append (cause?_part fun _ ↦ rfl) fun _ ↦
      cause?_bind_pure.trans (cause?_part fun _ ↦ rfl)
  simp only [items, List.append_assoc]
  exact cause?_bind_append (Described.cause?_optional htags) fun _ ↦
    cause?_bind_append (Described.cause?_optional hcpu) fun _ ↦
    cause?_bind_append (Described.cause?_optional hdisks) fun _ ↦
    cause?_bind_append (Described.cause?_optional hmemory) fun _ ↦
    cause?_bind_append (cause?_part fun _ ↦ rfl) fun _ ↦
    cause?_bind_append (cause?_family fun _ ↦ rfl) fun _ ↦
    cause?_bind_append (cause?_family fun _ ↦ rfl) fun _ ↦
    cause?_bind_append (cause?_part fun _ ↦ rfl) fun _ ↦
    cause?_bind_append (cause?_family fun _ ↦ rfl) fun _ ↦
    cause?_bind_pure.trans (cause?_family fun _ ↦ rfl)

/-! ## What is meant -/

/-- The configuration that a description means: texts, amounts and families are meant as they are
told, and everything else is passed on. -/
structure Means (d : Description) (c : Configuration) : Prop where
  /-- The guest agent. -/
  agent : c.agent = d.agent
  /-- The cloud-init settings. -/
  cloudInit : c.cloudInit = d.cloudInit
  /-- The virtual CPU. -/
  cpu : Option.Rel CpuDescription.Gives d.cpu c.cpu
  /-- The notes. -/
  notes : c.description = d.description
  /-- The drives, bus by bus and slot by slot. -/
  disks : Option.Rel (fun given disks ↦ ∀ bus,
    Option.Rel (Fills DriveDescription.Gives) (given.onBus bus) (disks.onBus bus)) d.disks c.disks
  /-- The image to install the guest from. -/
  iso : c.iso = d.iso
  /-- The memory. -/
  memory : Option.Rel MemoryDescription.Gives d.memory c.memory
  /-- The host name. -/
  name : d.name = c.name.map Checked.text
  /-- The network interfaces, slot by slot. -/
  networks : Option.Rel (Fills fun given interface ↦ interface = given) d.networks c.networks
  /-- Whether the guest boots with its host. -/
  onBoot : c.onBoot = d.onBoot
  /-- The PCI devices, slot by slot. -/
  pciDevices : Option.Rel (Fills PciDescription.Gives) d.pciDevices c.pciDevices
  /-- The pool. -/
  pool : d.pool = c.pool.map Checked.text
  /-- Whether the guest is protected. -/
  isProtected : c.isProtected = d.isProtected
  /-- The serial ports, slot by slot. -/
  serials : Option.Rel (Fills SerialDescription.Gives) d.serials c.serials
  /-- The tags, in whatever order they are given. -/
  tags : Option.Rel (fun texts tags ↦ ∀ s, s ∈ texts ↔ ∃ tag ∈ tags, tag.text = s)
    d.tags c.tags
  /-- The TPM. -/
  tpm : c.tpm = d.tpm
  /-- The USB devices, slot by slot. -/
  usbs : Option.Rel (Fills UsbDescription.Gives) d.usbs c.usbs

theorem mapM_checked_eq_ok_iff {g : Grammar} {texts : List String} {given : List (Checked g)} :
    texts.mapM Described.checked = .ok given ↔ texts = given.map Checked.text := by
  rw [mapM_eq_ok_iff]
  constructor
  · intro h
    induction texts generalizing given with
    | nil =>
      obtain rfl := List.map_eq_nil_iff.1 h.symm
      rfl
    | cons s texts ih =>
      cases given with
      | nil => cases h
      | cons a given =>
        obtain ⟨ha, hgiven⟩ := List.cons.inj h
        rw [List.map_cons, Described.checked_eq_ok_iff.1 ha, ← ih hgiven]
  · rintro rfl
    simp only [List.map_map, Function.comp_def, Described.checked_text]

/-- Tags come out as those that are given. -/
theorem tagSet_eq_ok_iff {texts : List String} {tags : Tags} :
    tagSet texts = .ok tags ↔ ∀ s, s ∈ texts ↔ ∃ tag ∈ tags, tag.text = s := by
  simp only [tagSet, map_eq_ok_iff, mapM_checked_eq_ok_iff]
  constructor
  · rintro ⟨given, rfl, rfl⟩ s
    simp only [List.mem_map, SortedSet.mem_ofList]
  · intro h
    obtain ⟨given, hgiven⟩ : ∃ given : List Tag, texts.mapM Described.checked = .ok given := by
      refine exists_mapM_eq_ok_iff.2 fun s hs ↦ ?_
      obtain ⟨tag, -, htext⟩ := (h s).1 hs
      exact ⟨tag, Described.checked_eq_ok_iff.2 htext⟩
    obtain rfl := mapM_checked_eq_ok_iff.1 hgiven
    refine ⟨given, rfl, SortedSet.ext fun a ↦ ?_⟩
    rw [SortedSet.mem_ofList]
    constructor
    · intro ha
      obtain ⟨b, hb, htext⟩ := (h a.text).1 (List.mem_map_of_mem ha)
      exact Checked.ext htext ▸ hb
    · intro ha
      obtain ⟨b, hb, htext⟩ := List.mem_map.1 ((h a.text).2 ⟨a, ha, rfl⟩)
      exact Checked.ext htext ▸ hb

/-- A configuration comes out exactly if it is meant. -/
theorem configuration_eq_ok_iff {description : Description} {c : Configuration} :
    description.configuration = .ok c ↔ description.Means c := by
  have hcpu {part : Option CpuDescription} {cpu : Option Cpu} :
      Described.optional CpuDescription.cpu part = .ok cpu ↔
        Option.Rel CpuDescription.Gives part cpu :=
    Described.optional_eq_ok_iff fun _ _ ↦ CpuDescription.cpu_eq_ok_iff
  have hdisks {part : Option DisksDescription} {disks : Option Disks} :
      Described.optional DisksDescription.disks part = .ok disks ↔
        Option.Rel (fun given disks ↦ ∀ bus, Option.Rel (Fills DriveDescription.Gives)
          (given.onBus bus) (disks.onBus bus)) part disks :=
    Described.optional_eq_ok_iff fun _ _ ↦ DisksDescription.disks_eq_ok_iff
  have hmemory {part : Option MemoryDescription} {memory : Option Memory} :
      Described.optional MemoryDescription.memory part = .ok memory ↔
        Option.Rel MemoryDescription.Gives part memory :=
    Described.optional_eq_ok_iff fun _ _ ↦ MemoryDescription.memory_eq_ok_iff
  have htags {part : Option (List String)} {tags : Option Tags} :
      Described.optional tagSet part = .ok tags ↔ Option.Rel (fun texts tags ↦
        ∀ s, s ∈ texts ↔ ∃ tag ∈ tags, tag.text = s) part tags :=
    Described.optional_eq_ok_iff fun _ _ ↦ tagSet_eq_ok_iff
  have hfamily {kind : SlotKind} {family : String} {α β : Type}
      {convert : String → α → Described β} {gives : α → β → Prop}
      {fails : String → α → DescriptionError → Prop}
      (h : ∀ label a, (convert label a).IsExact (gives a) (fails label a))
      {part : Option (SortedMap String α)} {devices : Option (SlotMap kind β)} :
      Described.optional (Described.slots family convert) part = .ok devices ↔
        Option.Rel (Fills gives) part devices :=
    Described.optional_eq_ok_iff fun _ _ ↦
      Described.slots_eq_ok_iff fun label a ↦ (h label a).ok_iff
  rw [configuration]
  simp only [bind_eq_ok_iff, pure_eq_ok_iff, hcpu, hdisks, hmemory, htags,
    Described.optional_checked_eq_ok_iff, hfamily Item.network_isExact,
    hfamily PciDescription.device_isExact, hfamily SerialDescription.port_isExact,
    hfamily UsbDescription.device_isExact]
  constructor
  · rintro ⟨tags, htags, cpu, hcpu, disks, hdisks, memory, hmemory, name, hname, networks,
      hnetworks, pciDevices, hpci, pool, hpool, serials, hserials, usbs, husbs, rfl⟩
    exact ⟨rfl, rfl, hcpu, rfl, hdisks, rfl, hmemory, hname, hnetworks, rfl, hpci, hpool, rfl,
      hserials, htags, rfl, husbs⟩
  · intro h
    refine ⟨_, h.tags, _, h.cpu, _, h.disks, _, h.memory, _, h.name, _, h.networks, _, h.pciDevices,
      _, h.pool, _, h.serials, _, h.usbs, ?_⟩
    rw [← h.agent, ← h.cloudInit, ← h.notes, ← h.iso, ← h.onBoot, ← h.isProtected, ← h.tpm]

/-- **A description is converted exactly if every item has one meaning**; what comes out is the
configuration that is meant, and what goes wrong is what is wrong with the first item that has
none. -/
theorem configuration_isExact (description : Description) :
    ((∃ c, description.configuration = .ok c) ↔
        ∀ item ∈ description.items, item.HasOneMeaning) ∧
      (∀ c, description.configuration = .ok c ↔ description.Means c) ∧
      ∀ e, description.configuration = .error e ↔
        ∃ before item after, description.items = before ++ item :: after ∧
          item.Fails e ∧ ∀ earlier ∈ before, earlier.HasOneMeaning := by
  refine ⟨?_, fun c ↦ configuration_eq_ok_iff, fun e ↦ ?_⟩
  · rw [← cause?_eq_none_iff, cause?_configuration, List.findSome?_eq_none_iff]
    simp only [Item.fault?_eq_none_iff]
  · rw [← cause?_eq_some_iff, cause?_configuration, List.findSome?_eq_some_iff]
    simp only [Item.fault?_eq_none_iff, Item.fault?_eq_some_iff]

/-- Of two spellings of a slot the later one counts. -/
example : ((configuration { serials := some (.ofList [
    ("1", { socket := true }), ("01", { path := some "/dev/ttyS0" })]) }).toOption.bind
      (·.serials)).bind (·.get? ⟨1, by decide⟩) = some .socket := by
  decide +kernel

end Description

end GuestConfig
