import GuestConfig.Disk.Drive

/-!
# The drives of a guest

The drives of all four buses together.  A bus that is not mentioned is left alone.  An image to
install the guest from can be given on its own: it goes into one slot of the IDE bus and replaces
nothing else there.

## What is here

* `Disks` — the drives by bus and slot; `Disks.onBus` are those of one bus, and `Disks.drives` lists
  all of them with their keys.
* `Disks.validate` — the rules for all drives.
* `Disks.plan` — the steps for the buses that are mentioned and for the installation image.
-/

set_option autoImplicit false

namespace GuestConfig

/-- The drives of a guest. -/
structure Disks where
  /-- The drives on the IDE bus. -/
  ide : Option (SlotMap .ide Drive) := none
  /-- The drives on the SATA bus. -/
  sata : Option (SlotMap .sata Drive) := none
  /-- The drives on the SCSI bus. -/
  scsi : Option (SlotMap .scsi Drive) := none
  /-- The drives on the VirtIO bus. -/
  virtio : Option (SlotMap .virtio Drive) := none
  deriving DecidableEq

namespace Disks

/-- The slot for installation media. -/
def mediaSlot : Slot .ide :=
  ⟨2, by decide⟩

/-- The key of the slot for installation media. -/
def mediaKey : String :=
  mediaSlot.key Bus.ide.stem

/-- The drives of one bus, if it is mentioned. -/
def onBus (disks : Disks) : (bus : Bus) → Option (SlotMap bus.kind Drive)
  | .ide => disks.ide
  | .sata => disks.sata
  | .scsi => disks.scsi
  | .virtio => disks.virtio

/-- The drives of one bus, with their keys. -/
def drivesOn (disks : Disks) (bus : Bus) : List (Bus × String × Drive) :=
  ((disks.onBus bus).getD .empty).toList.map fun (slot, drive) ↦ (bus, slot.key bus.stem, drive)

/-- All drives, with their buses and keys: bus by bus, and in ascending order of their slots. -/
def drives (disks : Disks) : List (Bus × String × Drive) :=
  Bus.all.flatMap disks.drivesOn

/-- Whether the slot for installation media is taken. -/
def usesMediaSlot (disks : Disks) : Bool :=
  disks.ide.any (·.contains mediaSlot)

/-! ## Stored drives -/

/-- The drives of a guest, if it has any. -/
def ofWire (w : Wire) : Except WireError (Option Disks) := do
  let disks : Disks := {
    ide := ← w.slots .ide Bus.ide.stem Drive.decode
    sata := ← w.slots .sata Bus.sata.stem Drive.decode
    scsi := ← w.slots .scsi Bus.scsi.stem Drive.decode
    virtio := ← w.slots .virtio Bus.virtio.stem Drive.decode }
  return if disks = { } then none else some disks

/-! ## Rules -/

/-- Checks the drives that are asked for: each by itself, and no more than one of them with
cloud-init settings. -/
def validate (disks : Disks) : Except RuleError Unit := do
  requireEach disks.drives fun (bus, key, drive) ↦ drive.validate bus key
  require ((disks.drives.filter fun (_, _, drive) ↦ drive.isCloudInit).length ≤ 1)
    .cloudInitDriveRepeated

/-! ## Planning -/

/-- The steps for the IDE bus.  Where the bus is mentioned, the installation image joins its
drives; where it is not, the image is the only drive that is placed. -/
def planIde (guest : Option GuestId) (current desired : Option (SlotMap .ide Drive))
    (iso : Option IsoImage) : Draft :=
  let placement := Drive.placement .ide guest
  match desired, iso with
  | some drives, some image =>
    placement.plan Bus.ide.stem current (some (drives.insert mediaSlot (.cdrom (.iso image))))
  | some drives, none => placement.plan Bus.ide.stem current (some drives)
  | none, some image =>
    placement.place mediaKey (current.bind (·.get? mediaSlot)) (.cdrom (.iso image))
  | none, none => []

/-- The steps for a bus that no installation image goes to. -/
def planBus (guest : Option GuestId) (current desired : Disks) (bus : Bus) : Draft :=
  (Drive.placement bus guest).plan bus.stem (current.onBus bus) (desired.onBus bus)

/-- The steps for the drives and the installation image that are asked for. -/
def plan (guest : Option GuestId) (current desired : Option Disks) (iso : Option IsoImage) :
    Draft :=
  let before := current.getD { }
  let after := desired.getD { }
  planIde guest before.ide after.ide iso ++
    [Bus.sata, .scsi, .virtio].flatMap (planBus guest before after)

/-! ## As a document -/

/-- Reads the drives. -/
def ofValue? (d : Dialect) (v : Value) : Option Disks := do
  let fields ← v.fields? ["ide", "sata", "scsi", "virtio"]
  return {
    ide := ← fields.optional "ide" (Value.slotMap? (Drive.ofValue? d))
    sata := ← fields.optional "sata" (Value.slotMap? (Drive.ofValue? d))
    scsi := ← fields.optional "scsi" (Value.slotMap? (Drive.ofValue? d))
    virtio := ← fields.optional "virtio" (Value.slotMap? (Drive.ofValue? d)) }

/-- Writes the drives. -/
def toValue (disks : Disks) : Value :=
  .object [
    ("ide", .ofOption (.ofSlotMap Drive.toValue) disks.ide),
    ("sata", .ofOption (.ofSlotMap Drive.toValue) disks.sata),
    ("scsi", .ofOption (.ofSlotMap Drive.toValue) disks.scsi),
    ("virtio", .ofOption (.ofSlotMap Drive.toValue) disks.virtio)]

end Disks

end GuestConfig
