import GuestConfig.Disk.Options
import GuestConfig.Disk.Volume

/-!
# Disk images

A disk of a guest is an image in a volume.  A desired disk says where it should be and how large,
and the volume that it is in is taken from the current disk: updating a disk must name the volume
that it is attached to, or the guest would get another disk.

## What is here

* `Disk` — a disk.  A volume whose name follows the usual naming is kept in its parts, and any
  other name is kept as it is.
* `Disk.ofVolume` — the disk in a volume of a stored configuration.
* `Disk.newText`, `Disk.existingText` — a disk that is to be made, and one that is there.
* `Disk.attached?`, `Disk.moved?` — the volume that a disk is in, and the one that it moves to.
* `Disk.revise` — the change from one disk to another.
-/

set_option autoImplicit false

namespace GuestConfig

open Text (splitLast splitOnce)

/-- A disk of a guest. -/
structure Disk where
  /-- The storage that keeps it. -/
  storage : String
  /-- Its size in kibibytes. -/
  size : UInt64
  /-- The format of its image. -/
  format : DiskFormat := .raw
  /-- Its number among the disks of the guest. -/
  id : Option UInt32 := none
  /-- The base image, if it is a clone. -/
  linked : Option BaseImage := none
  /-- How its storage names images. -/
  naming : Option VolumeNaming := none
  /-- Whether it belongs to a template. -/
  isBase : Bool := false
  /-- The name of its volume, if that follows no usual naming. -/
  volume : Option String := none
  /-- Its options. -/
  options : DriveOptions := { }
  deriving DecidableEq

namespace Disk

/-- The size of the smallest disk that can be made. -/
def leastSize : Nat := 4097

/-! ## Stored disks -/

/-- The format in a list of options; none is a raw image. -/
def format? (options : OptionList) : Except WireError DiskFormat :=
  (options.token? "format").map (·.getD .raw)

/-- The format that the extension of a name says, or else the options. -/
def formatOf (name : List Char) (options : OptionList) : Except WireError DiskFormat :=
  match (splitLast '.' name).bind fun (_, extension) ↦
      Token.ofName? (String.ofList extension) with
  | some format => .ok format
  | none => format? options

/-- The disk in a volume.  A volume that has no usual name must at least have a storage. -/
def ofVolume (volume : String) (list : OptionList) : Except WireError Disk := do
  let size ← list.decoded? "size" fun s ↦ (parseSize s).mapError .size
  let options ← DriveOptions.ofOptions list
  match Volume.parse? volume with
  | some v =>
    let format ← match v.format with
      | some format => pure format
      | none => format? list
    return {
      storage := v.storage
      size := size.getD 0
      format := format
      id := some v.diskId
      linked := v.linked
      naming := some v.naming
      isBase := v.isBase
      options := options }
  | none =>
    match splitOnce ':' volume.toList with
    | none => .error (.malformedVolume volume)
    | some (storage, name) =>
      return {
        storage := String.ofList storage
        size := size.getD 0
        format := ← formatOf name list
        volume := some volume
        options := options }

/-- A disk that is to be made: its storage and its size in gibibytes. -/
def newText (disk : Disk) : String :=
  let format := if disk.format = .raw then none else some disk.format
  (OptionList.mk (
    OptionList.positional (disk.storage ++ ":" ++ formatGibibytes disk.size) ++
      disk.options.entries format none)).text

/-- A disk that is there: the name of its volume, and its size. -/
def existingText (volume : String) (size : UInt64) (options : DriveOptions) : String :=
  (OptionList.mk (OptionList.positional volume ++ options.entries none (some size))).text

/-! ## Rules -/

/-- Checks a disk that is asked for. -/
def validate (bus : Bus) (drive : String) (disk : Disk) : Except RuleError Unit := do
  require (disk.storage ≠ "") (.diskStorage drive)
  require (leastSize ≤ disk.size.toNat) (.diskSize drive disk.size leastSize)
  disk.options.validate bus drive

/-! ## Planning -/

/-- How the volumes of a disk are named. -/
def namingOver (desired current : Disk) : VolumeNaming :=
  (current.naming.or desired.naming).getD .volume

/-- The name of the volume that a disk is in. -/
def attached? (guest : Option GuestId) (naming : VolumeNaming) (current : Disk) : Option String :=
  match current.volume with
  | some volume => some volume
  | none => do
    let diskId ← current.id
    let guest ← guest
    some (Volume.text {
      storage := current.storage
      guest := guest
      diskId := diskId
      naming := naming
      linked := current.linked
      isBase := current.isBase
      format := some current.format })

/-- Whether a disk moves to another volume. -/
def moves (desired current : Disk) : Bool :=
  desired.storage ≠ current.storage || desired.id.any fun id ↦ some id ≠ current.id

/-- The name of the volume that a disk moves to.  It is no longer a clone there. -/
def moved? (guest : Option GuestId) (naming : VolumeNaming) (desired current : Disk) :
    Option String := do
  let diskId ← desired.id.or current.id
  let guest ← guest
  some (Volume.text {
    storage := desired.storage
    guest := guest
    diskId := diskId
    naming := naming
    linked := none
    isBase := current.isBase
    format := some current.format })

/-- The names of the volumes that a disk is in and will be in. -/
def volumes? (guest : Option GuestId) (desired current : Disk) : Option (String × String) := do
  let naming := namingOver desired current
  let before ← attached? guest naming current
  let after ← if moves desired current then moved? guest naming desired current else some before
  some (before, after)

/-- The new text for a disk, if it changes, and whether the guest has to be rebooted to see it.
A disk can shrink but not grow; `none` if its volume cannot be named. -/
def revise (bus : Bus) (guest : Option GuestId) (desired current : Disk) :
    Option (Option (String × Bool)) :=
  (volumes? guest desired current).map fun (before, after) ↦
    let text := existingText after (min desired.size current.size) desired.options
    if text = existingText before current.size current.options then none
    else some (text, moves desired current || !bus.canHotplug ||
      !desired.options.differOnlyLive current.options)

/-! ## As a document -/

/-- Reads a base image. -/
def baseImageOfValue? (v : Value) : Option BaseImage := do
  let fields ← v.fields? ["guest", "disk_id"]
  let number : UInt32 ← fields.required "guest" Value.word?
  return {
    guest := ← (GuestId.ofNat number.toNat).toOption
    diskId := ← fields.required "disk_id" Value.word? }

/-- Writes a base image. -/
def baseImageToValue (base : BaseImage) : Value :=
  .object [("guest", .ofNat base.guest.toNat), ("disk_id", .ofWord base.diskId)]

/-- Reads a disk. -/
def ofValue? (d : Dialect) (v : Value) : Option Disk := do
  let fields ← v.fields? ["storage", "size_kib", "format", "id", "linked", "syntax",
    "base_image", "volume", "options"]
  return {
    storage := ← fields.required "storage" Value.text?
    size := ← fields.required "size_kib" Value.word?
    format := ← fields.withDefault "format" .raw (Value.token? d)
    id := ← fields.optional "id" Value.word?
    linked := ← fields.optional "linked" baseImageOfValue?
    naming := ← fields.optional "syntax" (Value.token? d)
    isBase := ← fields.withDefault "base_image" false Value.flag?
    volume := ← fields.optional "volume" Value.text?
    options := ← fields.withDefault "options" { } (DriveOptions.ofValue? d) }

/-- Writes a disk. -/
def toValue (disk : Disk) : Value :=
  .object [
    ("storage", disk.storage),
    ("size_kib", .ofWord disk.size),
    ("format", .ofToken disk.format),
    ("id", .ofOption .ofWord disk.id),
    ("linked", .ofOption baseImageToValue disk.linked),
    ("syntax", .ofOption .ofToken disk.naming),
    ("base_image", .bool disk.isBase),
    ("volume", .ofOption .text disk.volume),
    ("options", disk.options.toValue)]

end Disk

end GuestConfig
