import GuestConfig.Planner
import GuestConfig.Proofs.Wire.Family

/-!
# The settings of a configuration, one by one

A configuration has sixteen settings that have nothing to do with each other: each is stored under
keys of its own, is decoded from these keys only, and is planned from its own desired and current
values only.  Drives and installation image count as one setting, because the image takes a slot of
a bus.

To which setting a key belongs can be read off the key: what stands in front of its digits is the
name of a single key or of a family, and no name belongs to two settings.

## What is here

* `Setting` and `Setting.owner?` — the settings, and the one that a key belongs to.
* `Setting.Reads` — the keys that a setting is decoded from, all of which belong to it.
* `Configuration.only` — one setting of a configuration.
* `Configuration.planOnly` — the steps for one setting; `Configuration.plan_eq_flatMap` says that a
  plan is made of these.
-/

set_option autoImplicit false

namespace GuestConfig

/-! ## Settings and their keys -/

/-- The settings of a configuration. -/
inductive Setting where
  /-- The guest agent. -/
  | agent
  /-- The cloud-init settings. -/
  | cloudInit
  /-- The virtual CPU. -/
  | cpu
  /-- The notes. -/
  | description
  /-- The drives and the installation image. -/
  | disks
  /-- The memory. -/
  | memory
  /-- The host name. -/
  | name
  /-- The network interfaces. -/
  | networks
  /-- Whether the guest boots with its host. -/
  | onBoot
  /-- The PCI devices. -/
  | pciDevices
  /-- The pool. -/
  | pool
  /-- Whether the guest is protected. -/
  | isProtected
  /-- The serial ports. -/
  | serials
  /-- The tags. -/
  | tags
  /-- The TPM. -/
  | tpm
  /-- The USB devices. -/
  | usbs
  deriving DecidableEq, Repr

namespace Setting

/-- The settings in the order in which they are planned. -/
def all : List Setting :=
  [agent, cloudInit, cpu, description, disks, memory, name, networks, onBoot, pciDevices, pool,
    isProtected, serials, tags, tpm, usbs]

theorem mem_all (s : Setting) : s ∈ all := by
  cases s <;> decide

/-- What stands in front of the digits of a key. -/
def keyName (key : String) : String :=
  String.ofList (key.toList.takeWhile fun c ↦ !c.isDigit)

/-- The setting that a name belongs to. -/
def ofKeyName? : String → Option Setting
  | "agent" => some agent
  | "cicustom" | "searchdomain" | "nameserver" | "ipconfig" | "cipassword" | "sshkeys"
  | "ciupgrade" | "ciuser" => some cloudInit
  | "cpu" | "affinity" | "cores" | "cpulimit" | "numa" | "sockets" | "cpuunits" | "vcpus" =>
    some cpu
  | "description" => some description
  | "ide" | "sata" | "scsi" | "virtio" => some disks
  | "memory" | "balloon" | "shares" => some memory
  | "name" => some name
  | "net" => some networks
  | "onboot" => some onBoot
  | "hostpci" => some pciDevices
  | "pool" => some pool
  | "protection" => some isProtected
  | "serial" => some serials
  | "tags" => some tags
  | "tpmstate" => some tpm
  | "usb" => some usbs
  | _ => none

/-- The setting that a key belongs to. -/
def owner? (key : String) : Option Setting :=
  ofKeyName? (keyName key)

theorem keyName_of_ofKey? {kind : SlotKind} {stem key : String} {slot : Slot kind}
    (hstem : stem.toList.all (!·.isDigit) = true) (h : Slot.ofKey? stem key = some slot) :
    keyName key = stem := by
  obtain ⟨ds, hkey, hne, hdigits, -⟩ := Slot.ofKey?_eq_some_iff.1 h
  obtain ⟨d, rest, rfl⟩ := List.exists_cons_of_ne_nil hne
  have hd : d.isDigit = true := List.all_eq_true.1 hdigits d List.mem_cons_self
  rw [keyName, hkey, List.takeWhile_append_of_pos (List.all_eq_true.1 hstem),
    List.takeWhile_cons_of_neg (by simp [hd]), List.append_nil, String.ofList_toList]

/-- The key of a slot belongs to the setting of its family. -/
theorem owner?_of_ofKey? {kind : SlotKind} {stem key : String} {s : Setting}
    (hstem : stem.toList.all (!·.isDigit) = true) (hname : ofKeyName? stem = some s)
    (h : (Slot.ofKey? stem key : Option (Slot kind)).isSome) : owner? key = some s := by
  obtain ⟨slot, hslot⟩ := Option.isSome_iff_exists.1 h
  rw [owner?, keyName_of_ofKey? hstem hslot, hname]

theorem owner?_key {kind : SlotKind} {stem : String} {s : Setting} (slot : Slot kind)
    (hstem : stem.toList.all (!·.isDigit) = true) (hname : ofKeyName? stem = some s) :
    owner? (slot.key stem) = some s :=
  owner?_of_ofKey? hstem hname (by rw [Slot.ofKey?_key stem slot]; rfl)

/-! ### Keys that are read -/

/-- The single keys that a setting is decoded from. -/
def singleKeys : Setting → List String
  | agent => [Agent.key]
  | cloudInit => [CloudInit.customKey, CloudInit.searchDomainKey, CloudInit.nameServersKey,
    PublicKeys.key, CloudInit.passwordKey, CloudInit.upgradeKey, CloudInit.usernameKey]
  | cpu => [Cpu.affinityKey, Cpu.modelKey, Cpu.coresKey, Cpu.limitKey, Cpu.numaKey, Cpu.socketsKey,
    Cpu.unitsKey, Cpu.virtualCoresKey]
  | description => [Configuration.descriptionKey]
  | memory => [Memory.capacityKey, Memory.minimumKey, Memory.sharesKey]
  | name => [Configuration.nameKey]
  | onBoot => [Configuration.onBootKey]
  | isProtected => [Configuration.protectionKey]
  | tags => [Tags.key]
  | tpm => [Tpm.key]
  | disks | networks | pciDevices | pool | serials | usbs => []

/-- The families that a setting is decoded from, with the stems of their keys. -/
def families : Setting → List (SlotKind × String)
  | cloudInit => [(.network, CloudInit.addressingStem)]
  | disks => Bus.all.map fun bus ↦ (bus.kind, bus.stem)
  | networks => [(.network, NetworkInterface.stem)]
  | pciDevices => [(.pci, PciDevice.stem)]
  | serials => [(.serial, SerialPort.stem)]
  | usbs => [(.usb, UsbDevice.stem)]
  | agent | cpu | description | memory | name | onBoot | pool | isProtected | tags | tpm => []

/-- A setting is decoded from a key: one of its single keys, or a slot of one of its families.  The
pool is not decoded at all. -/
def Reads (s : Setting) (key : String) : Prop :=
  key ∈ s.singleKeys ∨ ∃ f ∈ s.families, (Slot.ofKey? f.2 key : Option (Slot f.1)).isSome

/-- The keys that a setting is decoded from belong to it. -/
theorem owner?_of_reads {s : Setting} {key : String} (h : s.Reads key) : owner? key = some s := by
  have hsingle : ∀ s ∈ all, ∀ key ∈ s.singleKeys, owner? key = some s := by decide +kernel
  have hfamily : ∀ s ∈ all, ∀ f ∈ s.families,
      f.2.toList.all (!·.isDigit) = true ∧ ofKeyName? f.2 = some s := by decide +kernel
  rcases h with hkey | ⟨f, hf, hslot⟩
  · exact hsingle s s.mem_all key hkey
  · obtain ⟨hstem, hname⟩ := hfamily s s.mem_all f hf
    exact owner?_of_ofKey? hstem hname hslot

/-- There are nine families. -/
example : (all.flatMap families).map (·.2) = ["ipconfig", "ide", "sata", "scsi", "virtio", "net",
    "hostpci", "serial", "usb"] := by decide

end Setting

/-! ## One setting of a configuration -/

namespace Configuration

/-- A configuration without all settings but one. -/
def only (c : Configuration) : Setting → Configuration
  | .agent => { agent := c.agent }
  | .cloudInit => { cloudInit := c.cloudInit }
  | .cpu => { cpu := c.cpu }
  | .description => { description := c.description }
  | .disks => { disks := c.disks, iso := c.iso }
  | .memory => { memory := c.memory }
  | .name => { name := c.name }
  | .networks => { networks := c.networks }
  | .onBoot => { onBoot := c.onBoot }
  | .pciDevices => { pciDevices := c.pciDevices }
  | .pool => { pool := c.pool }
  | .isProtected => { isProtected := c.isProtected }
  | .serials => { serials := c.serials }
  | .tags => { tags := c.tags }
  | .tpm => { tpm := c.tpm }
  | .usbs => { usbs := c.usbs }

/-- The steps for one setting. -/
def planOnly (version : Version) (guest : Option GuestId) (base desired : Configuration)
    (s : Setting) : Draft :=
  (desired.only s).plan version guest (some (base.only s))

@[simp] theorem plan_disks_none (guest : Option GuestId) (current : Option Disks) :
    Disks.plan guest current none none = [] := rfl

@[simp] theorem planPool_none (guest : Option GuestId) : planPool guest none = [] := rfl

@[simp] theorem plan_tags_none (current : Option Tags) : Tags.plan current none = [] := rfl

/-- The steps for one setting are those from its current to its desired value. -/
theorem planOnly_eq (version : Version) (guest : Option GuestId) (base desired : Configuration)
    (s : Setting) :
    planOnly version guest base desired s =
      match s with
      | .agent => desired.agent.elim [] (Agent.plan base.agent)
      | .cloudInit => desired.cloudInit.elim [] (CloudInit.plan base.cloudInit)
      | .cpu => desired.cpu.elim [] (Cpu.plan version base.cpu)
      | .description =>
        Draft.setting descriptionKey Value.ofNonempty false base.description desired.description
      | .disks => Disks.plan guest base.disks desired.disks desired.iso
      | .memory => desired.memory.elim [] (Memory.plan base.memory)
      | .name =>
        Draft.setting nameKey (fun name ↦ some (.ofChecked name)) false base.name desired.name
      | .networks =>
        NetworkInterface.placement.plan NetworkInterface.stem base.networks desired.networks
      | .onBoot =>
        Draft.setting onBootKey (fun b ↦ some (.ofFlag b)) false base.onBoot desired.onBoot
      | .pciDevices => PciDevice.placement.plan PciDevice.stem base.pciDevices desired.pciDevices
      | .pool => planPool guest desired.pool
      | .isProtected =>
        Draft.setting protectionKey (fun b ↦ some (.ofFlag b)) false base.isProtected
          desired.isProtected
      | .serials => SerialPort.placement.plan SerialPort.stem base.serials desired.serials
      | .tags => Tags.plan base.tags desired.tags
      | .tpm => desired.tpm.elim [] (Tpm.plan base.tpm)
      | .usbs => UsbDevice.placement.plan UsbDevice.stem base.usbs desired.usbs := by
  cases s <;>
    simp only [planOnly, only, plan, Option.elim_none, Draft.setting_none, plan_disks_none,
      planPool_none, plan_tags_none, Placement.plan_none, List.nil_append, List.append_nil,
      Option.getD_some]

/-- **A plan is made of the plans of its settings.** -/
theorem plan_eq_flatMap (version : Version) (guest : Option GuestId)
    (base desired : Configuration) :
    desired.plan version guest (some base) =
      Setting.all.flatMap (planOnly version guest base desired) := by
  simp [plan, Setting.all, planOnly, only]

end Configuration

end GuestConfig
