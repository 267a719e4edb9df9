import GuestConfig.Description.Drive
import GuestConfig.Proofs.Description.Conversion

/-!
# Descriptions of drives that mean one drive

A drive is described by a table for its kind, of which there are four.  A CD-ROM drive without
anything in its table is an empty one; it cannot hold an image and stand for the drive of the host.
The size of an image is not passed on, since the API says what it is.

## What is here

* `CdRomDescription.cdrom_isExact`, `DiskDescription.disk_isExact`, `DriveDescription.drive_isExact`
  — **the conversions are exact**.
* `DriveDescription.hasOneMeaning_iff` — a description with one meaning is one that gives a drive.
* `DisksDescription.disks_eq_ok_iff`, `DisksDescription.cause?_disks` — all drives, bus by bus.
-/

set_option autoImplicit false

namespace GuestConfig

open Described (ChoiceFails Fills)

/-! ## CD-ROM drives -/

namespace CdRomDescription

/-- A description means one drive: it does not both hold an image and stand for the drive of the
host. -/
def HasOneMeaning (description : CdRomDescription) : Prop :=
  ¬(description.iso.isSome ∧ description.physical = true)

/-- The drive that is meant. -/
inductive Gives (description : CdRomDescription) : CdRom → Prop
  /-- Nothing is in it. -/
  | empty (iso : description.iso = none) (physical : description.physical = false) :
    Gives description .empty
  /-- An image is in it; what size it has is not passed on. -/
  | iso {image : IsoImage} (given : description.iso = some image)
    (physical : description.physical = false) : Gives description (.iso { image with size := none })
  /-- It is the drive of the host. -/
  | physical (iso : description.iso = none) (given : description.physical = true) :
    Gives description .physical

/-- Why none is meant. -/
inductive Fails (label : String) (description : CdRomDescription) : DescriptionError → Prop
  /-- An image is in the drive of the host. -/
  | media {image : IsoImage} (iso : description.iso = some image)
    (physical : description.physical = true) :
    Fails label description (.rule (.cdRomMedia label 2))

/-- **A CD-ROM drive comes out as the one that is meant.** -/
theorem cdrom_isExact (label : String) (description : CdRomDescription) :
    (description.cdrom label).IsExact description.Gives (description.Fails label) := by
  refine .of (fun drive h ↦ ?_) (fun e h ↦ ?_) ?_
  · cases h with
    | empty iso physical => rw [cdrom, iso, physical]
    | iso given physical => rw [cdrom, given, physical]
    | physical iso given => rw [cdrom, iso, given]
  · cases h with
    | media iso physical =>
      rw [cdrom, iso, physical]
      rfl
  · cases hiso : description.iso <;> cases hphysical : description.physical
    · exact .inl ⟨_, .empty hiso hphysical⟩
    · exact .inl ⟨_, .physical hiso hphysical⟩
    · exact .inl ⟨_, .iso hiso hphysical⟩
    · exact .inr ⟨_, .media hiso hphysical⟩

end CdRomDescription

/-! ## Disks -/

namespace DiskDescription

/-- A description means one disk: its size is one. -/
def HasOneMeaning (description : DiskDescription) : Prop :=
  ∃ kib, parseSize description.size = .ok kib

/-- The disk that is meant; a format that is not given is that of a raw image. -/
inductive Gives (description : DiskDescription) : Disk → Prop
  /-- A disk of the size that is given. -/
  | disk {kib : UInt64} (size : parseSize description.size = .ok kib) :
    Gives description {
      storage := description.storage
      size := kib
      format := description.format.getD .raw
      id := description.id
      options := description.options }

/-- Why none is meant. -/
inductive Fails (label : String) (description : DiskDescription) : DescriptionError → Prop
  /-- The size is none. -/
  | size {cause : UnitError} (h : parseSize description.size = .error cause) :
    Fails label description (.size label description.size cause)

/-- **A disk comes out as the one that is meant.** -/
theorem disk_isExact (label : String) (description : DiskDescription) :
    (description.disk label).IsExact description.Gives (description.Fails label) := by
  refine .of (fun disk h ↦ ?_) (fun e h ↦ ?_) ?_
  · cases h with
    | disk size => exact bind_eq_ok_iff.2 ⟨_, mapError_eq_ok_iff.2 size, rfl⟩
  · cases h with
    | size h => exact bind_eq_error_iff.2 (.inl (mapError_eq_error_iff.2 ⟨_, h, rfl⟩))
  · cases h : parseSize description.size with
    | ok kib => exact .inl ⟨_, .disk h⟩
    | error cause => exact .inr ⟨_, .size h⟩

end DiskDescription

/-! ## Drives -/

namespace DriveDescription

/-- A description means one drive: one of the tables is there, and what is in it means one drive. -/
structure HasOneMeaning (description : DriveDescription) : Prop where
  /-- One of the tables is there. -/
  one : description.kinds = 1
  /-- A CD-ROM drive is one. -/
  cdrom : ∀ media, description.cdrom = some media → media.HasOneMeaning
  /-- A disk is one. -/
  disk : ∀ image, description.disk = some image → image.HasOneMeaning

/-- What a table that is there stands for. -/
inductive Names (description : DriveDescription) : Drive → Prop
  /-- A CD-ROM drive. -/
  | cdrom {media : CdRomDescription} {drive : CdRom} (given : description.cdrom = some media)
    (h : media.Gives drive) : Names description (.cdrom drive)
  /-- The drive with the cloud-init settings. -/
  | cloudInit {settings : CloudInitDrive} (given : description.cloudInit = some settings) :
    Names description (.cloudInit settings)
  /-- A disk. -/
  | disk {image : DiskDescription} {disk : Disk} (given : description.disk = some image)
    (h : image.Gives disk) : Names description (.disk disk)
  /-- A block device of the host. -/
  | passthrough {device : Passthrough} (given : description.passthrough = some device) :
    Names description (.passthrough device)

/-- What is wrong with a table that is there. -/
inductive Misnames (label : String) (description : DriveDescription) : DescriptionError → Prop
  /-- A CD-ROM drive is none. -/
  | cdrom {media : CdRomDescription} {e : DescriptionError} (given : description.cdrom = some media)
    (h : media.Fails label e) : Misnames label description e
  /-- A disk is none. -/
  | disk {image : DiskDescription} {e : DescriptionError} (given : description.disk = some image)
    (h : image.Fails label e) : Misnames label description e

/-- The drive that is meant. -/
def Gives (description : DriveDescription) (drive : Drive) : Prop :=
  description.kinds = 1 ∧ description.Names drive

/-- Why none is meant. -/
def Fails (label : String) (description : DriveDescription) : DescriptionError → Prop :=
  ChoiceFails (fun n ↦ .rule (.driveKinds label n)) description.kinds (description.Misnames label)

variable {description : DriveDescription}

theorem drive_eq_choose (label : String) (description : DriveDescription) :
    description.drive label = Described.choose (fun n ↦ .rule (.driveKinds label n))
      [description.cdrom.map fun media ↦ (media.cdrom label).map .cdrom,
        description.cloudInit.map fun settings ↦ .ok (.cloudInit settings),
        description.disk.map fun image ↦ (image.disk label).map .disk,
        description.passthrough.map fun device ↦ .ok (.passthrough device)] := by
  rw [drive, kinds]
  cases description.cdrom <;> cases description.cloudInit <;> cases description.disk <;>
    cases description.passthrough <;> rfl

/-- **A drive comes out as the one that is meant.** -/
theorem drive_isExact (label : String) (description : DriveDescription) :
    (description.drive label).IsExact description.Gives (description.Fails label) := by
  rw [drive_eq_choose]
  refine Described.choose_isExact ?_ (fun drive ↦ ?_) (fun e ↦ ?_)
  · simp [kinds]
  · simp only [List.mem_cons, exists_eq_or_imp, List.not_mem_nil, or_false, exists_eq_left,
      Option.map_eq_some_iff, map_eq_ok_iff, Except.ok.injEq,
      (CdRomDescription.cdrom_isExact _ _).ok_iff, (DiskDescription.disk_isExact _ _).ok_iff]
    constructor
    · rintro (⟨_, given, _, h, rfl⟩ | ⟨_, given, rfl⟩ | ⟨_, given, _, h, rfl⟩ | ⟨_, given, rfl⟩)
      · exact .cdrom given h
      · exact .cloudInit given
      · exact .disk given h
      · exact .passthrough given
    · rintro (⟨given, h⟩ | given | ⟨given, h⟩ | given)
      · exact .inl ⟨_, given, _, h, rfl⟩
      · exact .inr (.inl ⟨_, given, rfl⟩)
      · exact .inr (.inr (.inl ⟨_, given, _, h, rfl⟩))
      · exact .inr (.inr (.inr ⟨_, given, rfl⟩))
  · simp only [List.mem_cons, exists_eq_or_imp, List.not_mem_nil, or_false, exists_eq_left,
      Option.map_eq_some_iff, map_eq_error_iff, reduceCtorEq, and_false, exists_false, false_or,
      (CdRomDescription.cdrom_isExact _ _).error_iff, (DiskDescription.disk_isExact _ _).error_iff]
    constructor
    · rintro (⟨_, given, h⟩ | ⟨_, given, h⟩)
      · exact .cdrom given h
      · exact .disk given h
    · rintro (⟨given, h⟩ | ⟨given, h⟩)
      · exact .inl ⟨_, given, h⟩
      · exact .inr ⟨_, given, h⟩

/-- **A description with one meaning gives a drive.** -/
theorem hasOneMeaning_iff : description.HasOneMeaning ↔ ∃ drive, description.Gives drive := by
  rw [(drive_isExact "" description).exists_gives_iff, Fails, Described.forall_not_choiceFails_iff]
  constructor
  · intro h
    refine ⟨h.one, fun e he ↦ ?_⟩
    cases he with
    | cdrom given he =>
      cases he with
      | media iso physical => exact h.cdrom _ given ⟨by simp [iso], physical⟩
    | disk given he =>
      cases he with
      | size hsize =>
        obtain ⟨kib, hkib⟩ := h.disk _ given
        cases hsize.symm.trans hkib
  · rintro ⟨one, h⟩
    refine ⟨one, fun media given ⟨hiso, physical⟩ ↦ ?_, fun image given ↦ ?_⟩
    · obtain ⟨iso, hiso⟩ := Option.isSome_iff_exists.1 hiso
      exact h _ (.cdrom given (.media hiso physical))
    · cases hsize : parseSize image.size with
      | ok kib => exact ⟨kib, hsize⟩
      | error cause => exact absurd (.disk given (.size hsize)) (h (.size "" image.size cause))

end DriveDescription

/-! ## All drives -/

namespace DisksDescription

/-- The drives of one bus that are described. -/
def onBus (description : DisksDescription) : Bus → Option (SortedMap String DriveDescription)
  | .ide => description.ide
  | .sata => description.sata
  | .scsi => description.scsi
  | .virtio => description.virtio

/-- **All drives come out as they are described, bus by bus.** -/
theorem disks_eq_ok_iff {description : DisksDescription} {disks : Disks} :
    description.disks = .ok disks ↔
      ∀ bus,
        Option.Rel (Fills DriveDescription.Gives) (description.onBus bus) (disks.onBus bus) := by
  have hbus (bus : Bus) {part : Option (SortedMap String DriveDescription)}
      {drives : Option (SlotMap bus.kind Drive)} :
      drivesOn bus part = .ok drives ↔ Option.Rel (Fills DriveDescription.Gives) part drives :=
    Described.optional_eq_ok_iff fun _ _ ↦
      Described.slots_eq_ok_iff fun label a ↦ (DriveDescription.drive_isExact label a).ok_iff
  simp only [DisksDescription.disks, bind_eq_ok_iff, pure_eq_ok_iff, hbus]
  constructor
  · rintro ⟨ide, hide, sata, hsata, scsi, hscsi, virtio, hvirtio, rfl⟩ bus
    cases bus with
    | ide => exact hide
    | sata => exact hsata
    | scsi => exact hscsi
    | virtio => exact hvirtio
  · exact fun h ↦ ⟨_, h .ide, _, h .sata, _, h .scsi, _, h .virtio, rfl⟩

/-- The drives that are described, with their buses and keys: bus by bus, and in ascending order of
their keys. -/
def entries (description : DisksDescription) : List (Bus × String × DriveDescription) :=
  Bus.all.flatMap fun bus ↦
    (description.onBus bus).elim [] fun drives ↦ drives.toList.map fun entry ↦ (bus, entry)

theorem cause?_disks (description : DisksDescription) :
    cause? description.disks = description.entries.findSome? fun (bus, entry) ↦
      cause? (Described.device bus.stem DriveDescription.drive entry :
        Described (Slot bus.kind × Drive)) := by
  have hbus (bus : Bus) (part : Option (SortedMap String DriveDescription)) :
      cause? (drivesOn bus part) =
        (part.elim [] fun drives ↦ drives.toList.map fun entry ↦ (bus, entry)).findSome?
          fun (bus, entry) ↦ cause? (Described.device bus.stem DriveDescription.drive entry :
            Described (Slot bus.kind × Drive)) :=
    Described.cause?_optional fun _ ↦ Described.cause?_slots fun _ ↦ rfl
  exact cause?_bind_append (hbus .ide _) fun _ ↦ cause?_bind_append (hbus .sata _) fun _ ↦
    cause?_bind_append (hbus .scsi _) fun _ ↦ cause?_bind_append (hbus .virtio _) fun _ ↦ rfl

end DisksDescription

end GuestConfig
