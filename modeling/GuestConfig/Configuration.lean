import GuestConfig.Agent
import GuestConfig.CloudInit.Basic
import GuestConfig.Cpu.Basic
import GuestConfig.Disk.Basic
import GuestConfig.Memory
import GuestConfig.Network.Interface
import GuestConfig.Pci
import GuestConfig.Serial
import GuestConfig.Tag
import GuestConfig.Tpm.Basic
import GuestConfig.Usb

/-!
# Configurations

Everything that is configured about a guest.  A configuration is both what a guest has and what an
operator asks for; in the latter role a setting that is absent is not asked for.

## What is here

* `Configuration` — the settings, all of which may be absent.
* `Configuration.ofWire` — the configuration that a stored object holds.
* `Configuration.validate` — the rules: those of every setting, and those that span several.
* `Configuration.plan` — the steps, setting by setting in a fixed order.
* `Configuration.ofValue?`, `Configuration.toValue` — configurations as documents.
-/

set_option autoImplicit false

namespace GuestConfig

/-- The configuration of a guest. -/
structure Configuration where
  /-- The guest agent. -/
  agent : Option Agent := none
  /-- The cloud-init settings. -/
  cloudInit : Option CloudInit := none
  /-- The virtual CPU. -/
  cpu : Option Cpu := none
  /-- Notes; an empty text removes them. -/
  description : Option String := none
  /-- The drives. -/
  disks : Option Disks := none
  /-- An image to install the guest from. -/
  iso : Option IsoImage := none
  /-- The memory. -/
  memory : Option Memory := none
  /-- The host name. -/
  name : Option GuestName := none
  /-- The network interfaces. -/
  networks : Option (SlotMap .network NetworkInterface) := none
  /-- Whether the guest boots with its host. -/
  onBoot : Option Bool := none
  /-- The PCI devices. -/
  pciDevices : Option (SlotMap .pci PciDevice) := none
  /-- The pool that the guest is placed in when it is created. -/
  pool : Option PoolName := none
  /-- Whether the guest is protected from being removed. -/
  isProtected : Option Bool := none
  /-- The serial ports. -/
  serials : Option (SlotMap .serial SerialPort) := none
  /-- The tags. -/
  tags : Option Tags := none
  /-- The TPM. -/
  tpm : Option Tpm := none
  /-- The USB devices. -/
  usbs : Option (SlotMap .usb UsbDevice) := none
  deriving DecidableEq

namespace Configuration

/-! ## Stored configurations -/

/-- The key of the notes. -/
def descriptionKey : String :=
  "description"

/-- The key of the host name. -/
def nameKey : String :=
  "name"

/-- The key of the setting for booting with the host. -/
def onBootKey : String :=
  "onboot"

/-- The key of the pool. -/
def poolKey : String :=
  "pool"

/-- The key of the protection. -/
def protectionKey : String :=
  "protection"

/-- The configuration that a stored object holds.  Keys that are not known are passed over.  There
is never an installation image, which is a drive like others once it is stored, and never a pool,
which is not stored with a guest. -/
def ofWire (w : Wire) : Except WireError Configuration := do
  let name ← w.decoded? nameKey Checked.decode
  return {
    agent := ← Agent.ofWire w
    cloudInit := ← CloudInit.ofWire w
    cpu := ← Cpu.ofWire w
    description := ← w.text? descriptionKey
    disks := ← Disks.ofWire w
    memory := ← Memory.ofWire w
    name := name
    networks := ← NetworkInterface.ofWire w
    onBoot := ← w.flag? onBootKey
    pciDevices := ← PciDevice.ofWire w
    isProtected := ← w.flag? protectionKey
    serials := ← SerialPort.ofWire w
    tags := ← Tags.ofWire w
    tpm := ← Tpm.ofWire w
    usbs := ← UsbDevice.ofWire w }

/-! ## Rules -/

/-- Whether the guest has a network interface in a slot once a configuration is in effect. -/
def hasInterface (current : Option Configuration) (desired : Configuration)
    (slot : Slot .network) : Bool :=
  match desired.networks with
  | some networks => (networks.get? slot).any (!·.delete)
  | none => (current.bind networks).any (·.contains slot)

/-- Checks the drives and the installation image, which cannot both have its slot. -/
def validateDrives (desired : Configuration) : Except RuleError Unit := do
  requireOf desired.iso (IsoImage.validate Disks.mediaKey)
  requireOf desired.disks fun disks ↦ do
    disks.validate
    require (!(desired.iso.isSome && disks.usesMediaSlot)) .isoAndMediaDrive

/-- Checks the network interfaces. -/
def validateNetworks (current : Option Configuration) (desired : Configuration) :
    Except RuleError Unit :=
  requireOf desired.networks fun networks ↦
    requireEach networks.toList fun (slot, interface) ↦
      interface.validate slot ((current.bind Configuration.networks).bind (·.get? slot))

/-- Checks the cloud-init settings; addresses need interfaces. -/
def validateCloudInit (version : Version) (current : Option Configuration)
    (desired : Configuration) : Except RuleError Unit :=
  requireOf desired.cloudInit fun settings ↦ do
    settings.validate version
    requireOf settings.addressing fun addressing ↦
      requireEach addressing.keys fun slot ↦
        require (hasInterface current desired slot) (.addressingWithoutInterface slot)

/-- Checks a configuration that is asked for, on top of the one in effect. -/
def validate (version : Version) (current : Option Configuration) (desired : Configuration) :
    Except RuleError Unit := do
  requireOf desired.cpu (Cpu.validate version (current.bind cpu))
  requireOf desired.memory (Memory.validate (current.bind memory))
  validateDrives desired
  validateNetworks current desired
  validateCloudInit version current desired
  requireOf desired.tpm (Tpm.validate (current.bind tpm))

/-! ## Planning -/

/-- The steps for the pool.  A new guest is placed in it; an existing one is left where it is. -/
def planPool (guest : Option GuestId) (pool : Option PoolName) : Draft :=
  match pool with
  | none => []
  | some name =>
    if guest.isNone then [.set poolKey (.text name.text) false] else [.ignorePool name]

/-- The steps from a configuration to another, for an existing guest or for a new one. -/
def plan (version : Version) (guest : Option GuestId) (current : Option Configuration)
    (desired : Configuration) : Draft :=
  let base := current.getD { }
  desired.agent.elim [] (Agent.plan base.agent) ++
    desired.cloudInit.elim [] (CloudInit.plan base.cloudInit) ++
    desired.cpu.elim [] (Cpu.plan version base.cpu) ++
    Draft.setting descriptionKey Value.ofNonempty false base.description desired.description ++
    Disks.plan guest base.disks desired.disks desired.iso ++
    desired.memory.elim [] (Memory.plan base.memory) ++
    Draft.setting nameKey (fun name ↦ some (.ofChecked name)) false base.name desired.name ++
    NetworkInterface.placement.plan NetworkInterface.stem base.networks desired.networks ++
    Draft.setting onBootKey (fun b ↦ some (.ofFlag b)) false base.onBoot desired.onBoot ++
    PciDevice.placement.plan PciDevice.stem base.pciDevices desired.pciDevices ++
    planPool guest desired.pool ++
    Draft.setting protectionKey (fun b ↦ some (.ofFlag b)) false base.isProtected
      desired.isProtected ++
    SerialPort.placement.plan SerialPort.stem base.serials desired.serials ++
    Tags.plan base.tags desired.tags ++
    desired.tpm.elim [] (Tpm.plan base.tpm) ++
    UsbDevice.placement.plan UsbDevice.stem base.usbs desired.usbs

/-! ## As a document -/

/-- The fields of a configuration. -/
def fieldNames : List String :=
  ["agent", "cloud_init", "cpu", "description", "disks", "iso", "memory", "name", "networks",
    "on_boot", "pci_devices", "pool", "protection", "serials", "tags", "tpm", "usbs"]

/-- Reads a configuration. -/
def ofValue? (v : Value) : Option Configuration := do
  let d := Dialect.json
  let fields ← v.fields? fieldNames
  return {
    agent := ← fields.optional "agent" (Agent.ofValue? d)
    cloudInit := ← fields.optional "cloud_init" CloudInit.ofValue?
    cpu := ← fields.optional "cpu" (Cpu.ofValue? d)
    description := ← fields.optional "description" Value.text?
    disks := ← fields.optional "disks" (Disks.ofValue? d)
    iso := ← fields.optional "iso" IsoImage.ofValue?
    memory := ← fields.optional "memory" Memory.ofValue?
    name := ← fields.optional "name" Value.checked?
    networks := ← fields.optional "networks" (Value.slotMap? (NetworkInterface.ofValue? d))
    onBoot := ← fields.optional "on_boot" Value.flag?
    pciDevices := ← fields.optional "pci_devices" (Value.slotMap? (PciDevice.ofValue? d))
    pool := ← fields.optional "pool" Value.checked?
    isProtected := ← fields.optional "protection" Value.flag?
    serials := ← fields.optional "serials" (Value.slotMap? (SerialPort.ofValue? d))
    tags := ← fields.optional "tags" Tags.ofValue?
    tpm := ← fields.optional "tpm" (Tpm.ofValue? d)
    usbs := ← fields.optional "usbs" (Value.slotMap? (UsbDevice.ofValue? d)) }

/-- Writes a configuration. -/
def toValue (c : Configuration) : Value :=
  .object [
    ("agent", .ofOption Agent.toValue c.agent),
    ("cloud_init", .ofOption CloudInit.toValue c.cloudInit),
    ("cpu", .ofOption Cpu.toValue c.cpu),
    ("description", .ofOption .text c.description),
    ("disks", .ofOption Disks.toValue c.disks),
    ("iso", .ofOption IsoImage.toValue c.iso),
    ("memory", .ofOption Memory.toValue c.memory),
    ("name", .ofOption .ofChecked c.name),
    ("networks", .ofOption (.ofSlotMap NetworkInterface.toValue) c.networks),
    ("on_boot", .ofOption .bool c.onBoot),
    ("pci_devices", .ofOption (.ofSlotMap PciDevice.toValue) c.pciDevices),
    ("pool", .ofOption .ofChecked c.pool),
    ("protection", .ofOption .bool c.isProtected),
    ("serials", .ofOption (.ofSlotMap SerialPort.toValue) c.serials),
    ("tags", .ofOption Tags.toValue c.tags),
    ("tpm", .ofOption Tpm.toValue c.tpm),
    ("usbs", .ofOption (.ofSlotMap UsbDevice.toValue) c.usbs)]

end Configuration

end GuestConfig
