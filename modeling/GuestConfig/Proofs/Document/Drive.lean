import GuestConfig.Proofs.Disk.Plan
import GuestConfig.Proofs.Document.Table

/-!
# Documents of drives read back

The drives of a guest with their media, images and options.  A drive is the deepest table of a
document: a bus holds slots, a slot a choice of four shapes, and what is in a drive may again be a
choice.  A reader that is inside of a choice takes more for nothing than one outside of it, but what
is written never comes close to that.

Limits of throughput are the exception to all this.  They are kept in hundredths and written as
floating point numbers, and whether the nearest hundredth of a quotient is the one that was divided
depends on how precise such numbers are.  What is said here is about drives without such limits.

## What is here

* `Bandwidth.HasNoThroughput`, `Drive.HasNoThroughput`, `Disks.HasNoThroughput` — no limit of
  throughput.
* `Disk.ofValue?_toValue`, `CdRom.ofValue?_toValue` — disks and media.
* `Drive.ofValue?_toValue`, `Disks.ofValue?_toValue` — **drives without limits of throughput read
  back.**
-/

set_option autoImplicit false

namespace GuestConfig

/-! ## Limits -/

namespace Bandwidth

/-- Whether there is no limit of throughput, also none that is zero. -/
def HasNoThroughput (b : Bandwidth) : Prop :=
  b.readMegabytes = none ∧ b.readMegabytesBurst = none ∧
    b.writeMegabytes = none ∧ b.writeMegabytesBurst = none

instance (b : Bandwidth) : Decidable b.HasNoThroughput :=
  inferInstanceAs (Decidable (_ ∧ _))

theorem ofValue?_toValue {b : Bandwidth} (h : b.HasNoThroughput) : ofValue? b.toValue = some b := by
  rw [ofValue?, toValue, Option.bind_eq_bind]
  refine Value.bind_fields?_object rfl (by simp) fun fields hget ↦ ?_
  cases b
  obtain ⟨rfl, rfl, rfl, rfl⟩ := h
  simp [hget, List.lookup_cons, Value.nullable?_ofOption]

end Bandwidth

theorem DriveOptions.ofValue?_toValue (d : Dialect) {o : DriveOptions}
    (h : o.bandwidth.HasNoThroughput) : ofValue? d o.toValue = some o := by
  rw [ofValue?, toValue, Option.bind_eq_bind]
  refine Value.bind_fields?_object rfl (by simp) fun fields hget ↦ ?_
  simp [hget, List.lookup_cons, Value.nullable?_ofOption, Bandwidth.ofValue?_toValue h]

/-! ## Media -/

@[simp] theorem IsoImage.ofValue?_toValue (image : IsoImage) :
    ofValue? image.toValue = some image := by
  rw [ofValue?, toValue, Option.bind_eq_bind]
  refine Value.bind_fields?_object rfl (by simp) fun fields hget ↦ ?_
  simp [hget, List.lookup_cons, Fields.required, Value.nullable?_ofOption]

@[simp] theorem IsoImage.isNull_toValue (image : IsoImage) : image.toValue.isNull = false := rfl

@[simp] theorem CdRom.ofValue?_toValue (d : Dialect) (cdrom : CdRom) :
    ofValue? d cdrom.toValue = some cdrom := by
  cases cdrom <;> simp [ofValue?, toValue, Value.tagged?_ofTag, Value.tagged?_ofTagged,
    Value.isAbsent]

/-! ## Disks -/

namespace Disk

/-- A base image reads back: the number of its guest is within the range of guests. -/
@[simp] theorem baseImageOfValue?_baseImageToValue (base : BaseImage) :
    baseImageOfValue? (baseImageToValue base) = some base := by
  rw [baseImageOfValue?, baseImageToValue, Option.bind_eq_bind]
  refine Value.bind_fields?_object rfl (by simp) fun fields hget ↦ ?_
  have hlt : base.guest.toNat < 2 ^ 32 := Nat.lt_of_le_of_lt base.guest.le_greatest (by decide)
  have hnat : (UInt32.ofNat base.guest.toNat).toNat = base.guest.toNat :=
    UInt32.toNat_ofNat_of_lt' hlt
  have hword : (Value.ofNat base.guest.toNat).word? = some (UInt32.ofNat base.guest.toNat) :=
    Word.ofNat?_eq_some_iff.2 hnat
  simp [hget, List.lookup_cons, Fields.required, hword, hnat, Except.toOption]

@[simp] theorem isNull_baseImageToValue (base : BaseImage) :
    (baseImageToValue base).isNull = false := rfl

/-- **A disk without limits of throughput reads back.** -/
theorem ofValue?_toValue (d : Dialect) {disk : Disk} (h : disk.options.bandwidth.HasNoThroughput) :
    ofValue? d disk.toValue = some disk := by
  rw [ofValue?, toValue, Option.bind_eq_bind]
  refine Value.bind_fields?_object rfl (by simp) fun fields hget ↦ ?_
  simp [hget, List.lookup_cons, Fields.required, Value.nullable?_ofOption,
    DriveOptions.ofValue?_toValue d h]

end Disk

/-! ## Drives -/

namespace Drive

/-- Whether a drive has no limit of throughput. -/
def HasNoThroughput : Drive → Prop
  | disk image => image.options.bandwidth.HasNoThroughput
  | passthrough device => device.options.bandwidth.HasNoThroughput
  | _ => True

instance : (drive : Drive) → Decidable drive.HasNoThroughput
  | cdrom _ | cloudInit _ => .isTrue trivial
  | disk image => inferInstanceAs (Decidable image.options.bandwidth.HasNoThroughput)
  | passthrough device => inferInstanceAs (Decidable device.options.bandwidth.HasNoThroughput)

@[simp] theorem cloudInitOfValue?_cloudInitToValue (d : Dialect) (drive : CloudInitDrive) :
    cloudInitOfValue? d (cloudInitToValue drive) = some drive := by
  rw [cloudInitOfValue?, cloudInitToValue, Option.bind_eq_bind]
  refine Value.bind_fields?_object rfl (by simp) fun fields hget ↦ ?_
  simp [hget, List.lookup_cons, Fields.required]

theorem passthroughOfValue?_passthroughToValue (d : Dialect) {device : Passthrough}
    (h : device.options.bandwidth.HasNoThroughput) :
    passthroughOfValue? d (passthroughToValue device) = some device := by
  rw [passthroughOfValue?, passthroughToValue, Option.bind_eq_bind]
  refine Value.bind_fields?_object rfl (by simp) fun fields hget ↦ ?_
  simp [hget, List.lookup_cons, Fields.required, DriveOptions.ofValue?_toValue d h]

/-- **A drive without limits of throughput reads back**, whatever its shape. -/
theorem ofValue?_toValue (d : Dialect) {drive : Drive} (h : drive.HasNoThroughput) :
    ofValue? d drive.toValue = some drive := by
  cases drive with
  | cdrom media => simp [ofValue?, toValue, Value.tagged?_ofTagged]
  | cloudInit drive => simp [ofValue?, toValue, Value.tagged?_ofTagged]
  | disk image => simp [ofValue?, toValue, Value.tagged?_ofTagged, Disk.ofValue?_toValue _ h]
  | passthrough device =>
    simp [ofValue?, toValue, Value.tagged?_ofTagged, passthroughOfValue?_passthroughToValue _ h]

end Drive

namespace Disks

/-- Whether no drive has a limit of throughput. -/
def HasNoThroughput (disks : Disks) : Prop :=
  ∀ e ∈ disks.drives, e.2.2.HasNoThroughput

instance (disks : Disks) : Decidable disks.HasNoThroughput :=
  inferInstanceAs (Decidable (∀ e ∈ disks.drives, e.2.2.HasNoThroughput))

/-- **The drives of a guest read back** if none of them has a limit of throughput. -/
theorem ofValue?_toValue (d : Dialect) {disks : Disks} (h : disks.HasNoThroughput) :
    ofValue? d disks.toValue = some disks := by
  have hdrive (bus : Bus) (drives : SlotMap bus.kind Drive)
      (hdrives : disks.onBus bus = some drives) (slot : Slot bus.kind) (drive : Drive)
      (hslot : drives.get? slot = some drive) :
      Drive.ofValue? d drive.toValue = some drive :=
    Drive.ofValue?_toValue d (h _ (mem_drives (by rw [hdrives]; exact hslot)))
  have hbus {kind : SlotKind} (m : Option (SlotMap kind Drive))
      (hm : ∀ drives, m = some drives → ∀ slot drive, drives.get? slot = some drive →
        Drive.ofValue? d drive.toValue = some drive) :
      Value.nullable? (Value.slotMap? (Drive.ofValue? d)) (.ofOption (.ofSlotMap Drive.toValue) m) =
        some m :=
    Value.nullable?_ofOption fun drives hdrives ↦
      ⟨Value.slotMap?_ofSlotMap (hm drives hdrives), Value.isNull_ofSlotMap _ _⟩
  have hide := hbus disks.ide (hdrive .ide)
  have hsata := hbus disks.sata (hdrive .sata)
  have hscsi := hbus disks.scsi (hdrive .scsi)
  have hvirtio := hbus disks.virtio (hdrive .virtio)
  rw [ofValue?, toValue, Option.bind_eq_bind]
  refine Value.bind_fields?_object rfl (by simp) fun fields hget ↦ ?_
  simp [hget, List.lookup_cons, hide, hsata, hscsi, hvirtio]

@[simp] theorem isNull_toValue (disks : Disks) : disks.toValue.isNull = false := rfl

end Disks

end GuestConfig
