import GuestConfig.Configuration
import GuestConfig.Description.Device
import GuestConfig.Description.Drive
import GuestConfig.Description.Resources
import GuestConfig.Toml.Document

/-!
# Descriptions of guests

What an operator writes by hand.  A description has the settings of a configuration in forms that
are pleasant to write: sizes with units, CPUs as ranges, and for every choice a key that is given.
Like in a configuration, a setting that is absent keeps its current value.

## What is here

* `Description` — the settings.
* `Description.configuration` — the configuration that is described, or why there is none.
* `Description.ofValue?`, `Description.toValue` — descriptions as documents, and
  `Description.ofToml?` for the form that they are written in.
-/

set_option autoImplicit false

namespace GuestConfig

/-- A description of a guest. -/
structure Description where
  /-- The host name. -/
  name : Option String := none
  /-- Notes; an empty text removes them. -/
  description : Option String := none
  /-- The pool that the guest is placed in when it is created. -/
  pool : Option String := none
  /-- Whether the guest boots with its host. -/
  onBoot : Option Bool := none
  /-- Whether the guest is protected from being removed. -/
  isProtected : Option Bool := none
  /-- The tags. -/
  tags : Option (List String) := none
  /-- An image to install the guest from. -/
  iso : Option IsoImage := none
  /-- The guest agent. -/
  agent : Option Agent := none
  /-- The virtual CPU. -/
  cpu : Option CpuDescription := none
  /-- The memory. -/
  memory : Option MemoryDescription := none
  /-- The cloud-init settings. -/
  cloudInit : Option CloudInit := none
  /-- The TPM. -/
  tpm : Option Tpm := none
  /-- The drives. -/
  disks : Option DisksDescription := none
  /-- The network interfaces. -/
  networks : Option (SortedMap String NetworkInterface) := none
  /-- The PCI devices. -/
  pciDevices : Option (SortedMap String PciDescription) := none
  /-- The USB devices. -/
  usbs : Option (SortedMap String UsbDescription) := none
  /-- The serial ports. -/
  serials : Option (SortedMap String SerialDescription) := none
  deriving DecidableEq

namespace Description

/-! ## The configuration that is described -/

/-- The tags that are described. -/
def tagSet (texts : List String) : Described Tags :=
  (texts.mapM Described.checked).map .ofList

/-- The configuration that is described. -/
def configuration (description : Description) : Described Configuration := do
  let tags ← Described.optional tagSet description.tags
  return {
    agent := description.agent
    cloudInit := description.cloudInit
    cpu := ← Described.optional CpuDescription.cpu description.cpu
    description := description.description
    disks := ← Described.optional DisksDescription.disks description.disks
    iso := description.iso
    memory := ← Described.optional MemoryDescription.memory description.memory
    name := ← Described.optional Described.checked description.name
    networks := ← Described.optional
      (Described.slots NetworkInterface.stem fun _ interface ↦ .ok interface) description.networks
    onBoot := description.onBoot
    pciDevices := ← Described.optional (Described.slots PciDevice.stem PciDescription.device)
      description.pciDevices
    pool := ← Described.optional Described.checked description.pool
    isProtected := description.isProtected
    serials := ← Described.optional (Described.slots SerialPort.stem SerialDescription.port)
      description.serials
    tags := tags
    tpm := description.tpm
    usbs := ← Described.optional (Described.slots UsbDevice.stem UsbDescription.device)
      description.usbs }

/-! ## As a document -/

/-- The fields of a description. -/
def fieldNames : List String :=
  ["name", "description", "pool", "on_boot", "protection", "tags", "iso", "agent", "cpu",
    "memory", "cloud_init", "tpm", "disk", "net", "pci", "usb", "serial"]

/-- Reads a description. -/
def ofValue? (d : Dialect) (v : Value) : Option Description := do
  let fields ← v.fields? fieldNames
  return {
    name := ← fields.optional "name" Value.text?
    description := ← fields.optional "description" Value.text?
    pool := ← fields.optional "pool" Value.text?
    onBoot := ← fields.optional "on_boot" Value.flag?
    isProtected := ← fields.optional "protection" Value.flag?
    tags := ← fields.optional "tags" (Value.list? Value.text?)
    iso := ← fields.optional "iso" IsoImage.ofValue?
    agent := ← fields.optional "agent" (Agent.ofValue? d)
    cpu := ← fields.optional "cpu" (CpuDescription.ofValue? d)
    memory := ← fields.optional "memory" MemoryDescription.ofValue?
    cloudInit := ← fields.optional "cloud_init" CloudInit.ofValue?
    tpm := ← fields.optional "tpm" (Tpm.ofValue? d)
    disks := ← fields.optional "disk" (DisksDescription.ofValue? d)
    networks := ← fields.optional "net" (Value.map? (NetworkInterface.ofValue? d))
    pciDevices := ← fields.optional "pci" (Value.map? PciDescription.ofValue?)
    usbs := ← fields.optional "usb" (Value.map? UsbDescription.ofValue?)
    serials := ← fields.optional "serial" (Value.map? SerialDescription.ofValue?) }

/-- Writes a description. -/
def toValue (description : Description) : Value :=
  .object [
    ("name", .ofOption .text description.name),
    ("description", .ofOption .text description.description),
    ("pool", .ofOption .text description.pool),
    ("on_boot", .ofOption .bool description.onBoot),
    ("protection", .ofOption .bool description.isProtected),
    ("tags", .ofOption (.ofList .text) description.tags),
    ("iso", .ofOption IsoImage.toValue description.iso),
    ("agent", .ofOption Agent.toValue description.agent),
    ("cpu", .ofOption CpuDescription.toValue description.cpu),
    ("memory", .ofOption MemoryDescription.toValue description.memory),
    ("cloud_init", .ofOption CloudInit.toValue description.cloudInit),
    ("tpm", .ofOption Tpm.toValue description.tpm),
    ("disk", .ofOption DisksDescription.toValue description.disks),
    ("net", .ofOption (.ofMap NetworkInterface.toValue) description.networks),
    ("pci", .ofOption (.ofMap PciDescription.toValue) description.pciDevices),
    ("usb", .ofOption (.ofMap UsbDescription.toValue) description.usbs),
    ("serial", .ofOption (.ofMap SerialDescription.toValue) description.serials)]

/-- Reads a description in the form that it is written in. -/
def ofToml? (s : String) : Option Description :=
  (Value.ofToml? s).bind (ofValue? .toml)

end Description

end GuestConfig
