import GuestConfig.Description.Error
import GuestConfig.Disk.Basic

/-!
# Describing drives

A drive of a description has a table for every kind of drive, exactly one of which is filled in.
A disk is described by its storage and its size; where its image lies is for the current
configuration to tell.

## What is here

* `CdRomDescription`, `DiskDescription`, `DriveDescription`, `DisksDescription`.
* `DriveDescription.drive`, `DisksDescription.disks` — the drives that are described.
-/

set_option autoImplicit false

namespace GuestConfig

/-! ## CD-ROM drives -/

/-- A description of a CD-ROM drive; without an image and the drive of the host, it is empty. -/
structure CdRomDescription where
  /-- The image in it. -/
  iso : Option IsoImage := none
  /-- Whether it is the drive of the host. -/
  physical : Bool := false
  deriving DecidableEq, Repr

namespace CdRomDescription

/-- The drive that is described; `label` names it.  The size of an image is for the API to say. -/
def cdrom (label : String) (description : CdRomDescription) : Described CdRom :=
  match description.iso, description.physical with
  | none, false => .ok .empty
  | some image, false => .ok (.iso { image with size := none })
  | none, true => .ok .physical
  | some _, true => Described.broken (.cdRomMedia label 2)

/-- Reads a description. -/
def ofValue? (v : Value) : Option CdRomDescription := do
  let fields ← v.fields? ["iso", "physical"]
  return {
    iso := ← fields.optional "iso" IsoImage.ofValue?
    physical := ← fields.withDefault "physical" false Value.flag? }

/-- Writes a description. -/
def toValue (description : CdRomDescription) : Value :=
  .object [
    ("iso", .ofOption IsoImage.toValue description.iso),
    ("physical", .bool description.physical)]

end CdRomDescription

/-! ## Disks -/

/-- A description of a disk. -/
structure DiskDescription where
  /-- The storage that keeps it. -/
  storage : String
  /-- Its size with a unit; without one it counts kibibytes. -/
  size : String
  /-- The format of its image. -/
  format : Option DiskFormat := none
  /-- Its number among the disks of the guest. -/
  id : Option UInt32 := none
  /-- Its options. -/
  options : DriveOptions := { }
  deriving DecidableEq

namespace DiskDescription

/-- The disk that is described; `label` names it. -/
def disk (label : String) (description : DiskDescription) : Described Disk := do
  return {
    storage := description.storage
    size := ← (parseSize description.size).mapError (.size label description.size)
    format := description.format.getD .raw
    id := description.id
    options := description.options }

/-- Reads a description. -/
def ofValue? (d : Dialect) (v : Value) : Option DiskDescription := do
  let fields ← v.fields? ["storage", "size", "format", "id", "options"]
  return {
    storage := ← fields.required "storage" Value.text?
    size := ← fields.required "size" Value.text?
    format := ← fields.optional "format" (Value.token? d)
    id := ← fields.optional "id" Value.word?
    options := ← fields.withDefault "options" { } (DriveOptions.ofValue? d) }

/-- Writes a description. -/
def toValue (description : DiskDescription) : Value :=
  .object [
    ("storage", description.storage),
    ("size", description.size),
    ("format", .ofOption .ofToken description.format),
    ("id", .ofOption .ofWord description.id),
    ("options", description.options.toValue)]

end DiskDescription

/-! ## Drives -/

/-- A description of a drive. -/
structure DriveDescription where
  /-- A CD-ROM drive. -/
  cdrom : Option CdRomDescription := none
  /-- The drive with the cloud-init settings. -/
  cloudInit : Option CloudInitDrive := none
  /-- A disk. -/
  disk : Option DiskDescription := none
  /-- A block device of the host. -/
  passthrough : Option Passthrough := none
  deriving DecidableEq

namespace DriveDescription

/-- How many kinds of drive are filled in. -/
def kinds (description : DriveDescription) : Nat :=
  [description.cdrom.isSome, description.cloudInit.isSome, description.disk.isSome,
    description.passthrough.isSome].count true

/-- The drive that is described; `label` names it. -/
def drive (label : String) (description : DriveDescription) : Described Drive :=
  match description.cdrom, description.cloudInit, description.disk, description.passthrough with
  | some media, none, none, none => (media.cdrom label).map .cdrom
  | none, some settings, none, none => .ok (.cloudInit settings)
  | none, none, some image, none => (image.disk label).map .disk
  | none, none, none, some device => .ok (.passthrough device)
  | _, _, _, _ => Described.broken (.driveKinds label description.kinds)

/-- Reads a description. -/
def ofValue? (d : Dialect) (v : Value) : Option DriveDescription := do
  let fields ← v.fields? ["cdrom", "cloudinit", "disk", "passthrough"]
  return {
    cdrom := ← fields.optional "cdrom" CdRomDescription.ofValue?
    cloudInit := ← fields.optional "cloudinit" (Drive.cloudInitOfValue? d)
    disk := ← fields.optional "disk" (DiskDescription.ofValue? d)
    passthrough := ← fields.optional "passthrough" (Drive.passthroughOfValue? d) }

/-- Writes a description. -/
def toValue (description : DriveDescription) : Value :=
  .object [
    ("cdrom", .ofOption CdRomDescription.toValue description.cdrom),
    ("cloudinit", .ofOption Drive.cloudInitToValue description.cloudInit),
    ("disk", .ofOption DiskDescription.toValue description.disk),
    ("passthrough", .ofOption Drive.passthroughToValue description.passthrough)]

end DriveDescription

/-! ## All drives -/

/-- A description of the drives; an empty table removes all drives of its bus. -/
structure DisksDescription where
  /-- The drives on the IDE bus. -/
  ide : Option (SortedMap String DriveDescription) := none
  /-- The drives on the SATA bus. -/
  sata : Option (SortedMap String DriveDescription) := none
  /-- The drives on the SCSI bus. -/
  scsi : Option (SortedMap String DriveDescription) := none
  /-- The drives on the VirtIO bus. -/
  virtio : Option (SortedMap String DriveDescription) := none
  deriving DecidableEq

namespace DisksDescription

/-- The drives of one bus that are described. -/
def drivesOn (bus : Bus) :
    Option (SortedMap String DriveDescription) → Described (Option (SlotMap bus.kind Drive)) :=
  Described.optional (Described.slots bus.stem DriveDescription.drive)

/-- The drives that are described. -/
def disks (description : DisksDescription) : Described Disks := do
  return {
    ide := ← drivesOn .ide description.ide
    sata := ← drivesOn .sata description.sata
    scsi := ← drivesOn .scsi description.scsi
    virtio := ← drivesOn .virtio description.virtio }

/-- Reads a description. -/
def ofValue? (d : Dialect) (v : Value) : Option DisksDescription := do
  let drives := Value.map? (DriveDescription.ofValue? d)
  let fields ← v.fields? ["ide", "sata", "scsi", "virtio"]
  return {
    ide := ← fields.optional "ide" drives
    sata := ← fields.optional "sata" drives
    scsi := ← fields.optional "scsi" drives
    virtio := ← fields.optional "virtio" drives }

/-- Writes a description. -/
def toValue (description : DisksDescription) : Value :=
  let drives := Value.ofOption (Value.ofMap DriveDescription.toValue)
  .object [
    ("ide", drives description.ide),
    ("sata", drives description.sata),
    ("scsi", drives description.scsi),
    ("virtio", drives description.virtio)]

end DisksDescription

end GuestConfig
