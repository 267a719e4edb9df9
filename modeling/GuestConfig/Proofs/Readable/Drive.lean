import GuestConfig.Proofs.Plan.Parts
import GuestConfig.Proofs.Readable.Wire
import GuestConfig.Proofs.Settling.Drive

/-!
# Drives stay readable, but for devices with a `=` in their path

The first entry of a drive is the name of its volume, an image or the path of a device.  Names of
volumes and images that are written from plain names have no `=`.  The path of a device may have
one, although the rules for paths exclude commas and blanks: then what stands in front of the `=` is
read as the name of an option, and the drive is left without a volume.

Drives read back as other drives at times — an image may be called like the one with the cloud-init
settings — and that does no harm here.

## What is here

* `Disk.exists_decode_text`, `CdRom.exists_decode_text`, `CloudInitDrive.exists_decode_text` — what
  drives with plain names are read as; `CdRom.exists_decode_text_cloudInit` is the case of such an
  image.
* `Drive.exists_decode_newText_iff` — **a new drive can be read exactly if it is no device with a
  `=` in its path.**
* `Drive.effect_place_of_equals` — a device with a `=` in its path is always written.
* `Disks.exists_ofWire_iff` — **the drives of a guest stay readable exactly if no such device is
  asked for.**
-/

set_option autoImplicit false

namespace GuestConfig

open OptionList (get?_append get?_optional get?_pair get?_positional positional)
open Text (isPathName isPlainName isWord isWord_append isWord_of_isPlainName)

/-! ## Texts that are read as drives -/

namespace Disk

theorem exists_formatOf {list : OptionList} {format : DiskFormat} (h : format? list = .ok format)
    (name : List Char) : ∃ kept, formatOf name list = .ok kept := by
  unfold formatOf
  split
  · exact ⟨_, rfl⟩
  · exact ⟨format, h⟩

/-- **A volume with a storage in front of options is read as a disk.** -/
theorem exists_decode_text {volume : String} (o : DriveOptions) (format : Option DiskFormat)
    (size : Option UInt64) (h : Drive.IsVolumeText volume) (hpath : volume.toList.head? ≠ some '/')
    (hcolon : ':' ∈ volume.toList) :
    ∃ disk, Drive.decode (OptionList.mk (positional volume ++ o.entries format size)).text =
      .ok (.disk disk) := by
  cases hparse : Volume.parse? volume with
  | some v => exact ⟨_, decode_text o format size h hpath (ofVolume_parts o format size hparse)⟩
  | none =>
    obtain ⟨⟨storage, name⟩, hsplit⟩ := Option.ne_none_iff_exists'.1
      (mt Text.splitOnce_eq_none_iff.1 (not_not_intro hcolon))
    obtain ⟨kept, hdisk⟩ := exists_ofVolume_verbatim o format size hparse hsplit
    exact ⟨_, decode_text o format size h hpath hdisk⟩

end Disk

/-- What stands on a storage with a plain name can stand in front of options. -/
theorem Drive.isVolumeText_of_storage {storage name : String}
    (hstorage : isPlainName storage = true) (hname : isWord name = true) :
    IsVolumeText (storage ++ ":" ++ name) ∧
      (storage ++ ":" ++ name).toList.head? ≠ some '/' ∧ ':' ∈ (storage ++ ":" ++ name).toList := by
  refine ⟨isVolumeText_of_isWord ?_ fun hempty ↦ ?_, fun hhead ↦ ?_, by simp⟩
  · rw [isWord_append, isWord_append, isWord_of_isPlainName hstorage, hname]
    decide
  · simpa using congrArg String.toList hempty
  · cases hlist : storage.toList with
    | nil => simp [hlist] at hhead
    | cons c rest =>
      obtain rfl : c = '/' := by simpa [hlist] using hhead
      exact absurd (List.all_eq_true.1 hstorage '/' (hlist ▸ List.mem_cons_self)) (by decide)

theorem Disk.exists_decode_newText_of_isPlainName {disk : Disk}
    (h : isPlainName disk.storage = true) :
    ∃ found, Drive.decode disk.newText = .ok (.disk found) := by
  have hsize : isWord (formatGibibytes disk.size) = true := Text.isWord_formatDecimal _ _
  obtain ⟨hvolume, hpath, hcolon⟩ := Drive.isVolumeText_of_storage h hsize
  exact exists_decode_text _ _ _ hvolume hpath hcolon

/-- A drive with cloud-init settings that is to be made is read as a disk. -/
theorem CloudInitDrive.exists_decode_text {drive : CloudInitDrive}
    (h : isPlainName drive.storage = true) :
    ∃ found, Drive.decode drive.text = .ok (.disk found) := by
  have hword : isWord "cloudinit" = true := by decide
  obtain ⟨hvolume, hpath, hcolon⟩ := Drive.isVolumeText_of_storage h hword
  have hname : drive.storage ++ ":" ++ "cloudinit" = drive.storage ++ ":cloudinit" :=
    String.append_assoc
  rw [hname] at hvolume hpath hcolon
  -- options that take part in everything are none to write
  exact Disk.exists_decode_text { backup := true, replicate := true } (some drive.format) none
    hvolume hpath hcolon

namespace CdRom

/-- **A drive with an image that is named like the one with cloud-init settings** is taken for the
drive with the cloud-init settings. -/
theorem exists_decode_text_cloudInit {image : IsoImage}
    (hstorage : isPlainName image.storage = true) (hfile : isPathName image.file = true)
    (h : Drive.isCloudInitImage image.file.toList = true) :
    ∃ format, Drive.decode (iso image).text = .ok (.cloudInit ⟨image.storage, format⟩) := by
  have hget : (OptionList.mk (iso image).entries).get? "format" = none := by
    simp [entries, get?_append, get?_positional, get?_pair, get?_optional]
  have hraw : Disk.format? (.mk (iso image).entries) = .ok .raw := by
    rw [Disk.format?, OptionList.token?, OptionList.read?_of_get?_eq_none _ hget]
    rfl
  obtain ⟨kept, hkept⟩ := Disk.exists_formatOf hraw ("iso/".toList ++ image.file.toList)
  have himage : (iso image).volume = image.volume := rfl
  have hvolume : Drive.IsVolumeText (iso image).volume :=
    IsoImage.isVolumeText_volume hstorage hfile
  refine ⟨kept, ?_⟩
  rw [decode_text_eq hvolume, himage, ofMedia_volume hstorage, if_pos h, hkept]
  rfl

/-- Drives whose medium is an image with a plain name, if it is an image at all. -/
def HasPlainNames (cdrom : CdRom) : Prop :=
  ∀ image, cdrom = .iso image → isPlainName image.storage = true ∧ isPathName image.file = true

/-- A CD-ROM drive can be read, even if its image is taken for one with cloud-init settings. -/
theorem exists_decode_text {cdrom : CdRom} (h : cdrom.HasPlainNames) :
    ∃ drive, Drive.decode cdrom.text = .ok drive := by
  cases cdrom with
  | empty => exact ⟨_, decode_text trivial⟩
  | physical => exact ⟨_, decode_text trivial⟩
  | iso image =>
    obtain ⟨hstorage, hfile⟩ := h image rfl
    cases hcloud : Drive.isCloudInitImage image.file.toList with
    | false => exact ⟨_, decode_text ⟨hstorage, hfile, hcloud⟩⟩
    | true =>
      obtain ⟨_, hdecode⟩ := exists_decode_text_cloudInit hstorage hfile hcloud
      exact ⟨_, hdecode⟩

end CdRom

/-! ## Drives that are written -/

namespace Drive

/-- The drives with plain names; the paths of devices are another matter. -/
def HasPlainNames : Drive → Prop
  | cdrom (.iso image) => isPlainName image.storage = true ∧ isPathName image.file = true
  | cdrom _ => True
  | cloudInit drive => isPlainName drive.storage = true
  | disk image => isPlainName image.storage = true
  | passthrough _ => True

variable {drive : Drive}

/-- **A new drive can be read exactly if it is no device with a `=` in its path.** -/
theorem exists_decode_newText_iff (h : drive.HasPlainNames) :
    (∃ found, decode drive.newText = .ok found) ↔
      ∀ device, drive = .passthrough device → '=' ∉ device.path.text.toList := by
  cases drive with
  | cdrom media =>
    refine iff_of_true (CdRom.exists_decode_text fun image himage ↦ ?_) fun _ h ↦
      Drive.noConfusion h
    subst himage
    exact h
  | cloudInit drive =>
    obtain ⟨found, hfound⟩ := CloudInitDrive.exists_decode_text h
    exact iff_of_true ⟨_, hfound⟩ fun _ h ↦ Drive.noConfusion h
  | disk image =>
    obtain ⟨found, hfound⟩ := Disk.exists_decode_newText_of_isPlainName h
    exact iff_of_true ⟨_, hfound⟩ fun _ h ↦ Drive.noConfusion h
  | passthrough device =>
    simp only [newText, Passthrough.exists_decode_text_iff, Drive.passthrough.injEq,
      forall_eq']

section placing

variable {bus : Bus} {guest : GuestId} {key : String} {existing : Option Drive}

/-- Putting a drive into a slot writes what can be read, unless it is a device with a `=` in its
path. -/
theorem writesReadable_place (h : drive.HasPlainNames)
    (hpath : ∀ device, drive = .passthrough device → '=' ∉ device.path.text.toList)
    (hexisting : ∀ image, existing = some (.disk image) → image.IsStored) :
    ((placement bus (some guest)).place key existing drive).WritesReadable decode := by
  obtain ⟨found, hfound⟩ := (exists_decode_newText_iff h).2 hpath
  have hnew (reboot : Bool) :
      Draft.WritesReadable decode [.set key (.text drive.newText) reboot] :=
    Draft.writesReadable_set hfound key reboot
  cases existing with
  | none => exact hnew _
  | some current =>
    simp only [placement, replace]
    split
    · split
      · exact Draft.writesReadable_nil
      · exact hnew _
    · next after before =>
      -- a disk that takes the place of another one is revised
      split
      · next update hrevise =>
        cases update with
        | none => exact Draft.writesReadable_nil
        | some update =>
          obtain ⟨text, reboot⟩ := update
          obtain ⟨found, hdecode, -⟩ := Disk.exists_decode_revise (hexisting before rfl) h hrevise
          exact Draft.writesReadable_set hdecode key reboot
      · exact fun _ _ _ hmem ↦ Step.noConfusion (List.mem_singleton.1 hmem)
    · split
      · exact Draft.writesReadable_nil
      · exact hnew _
    · split
      · exact Draft.writesReadable_nil
      · exact hnew _
    · exact hnew _

/-- **A device with a `=` in its path is always written**, since it is unlike every device that was
read. -/
theorem effect_place_of_equals {device : Passthrough} (h : '=' ∈ device.path.text.toList)
    (hexisting : ∀ before, existing = some (.passthrough before) →
      '=' ∉ before.path.text.toList) :
    ((placement bus (some guest)).place key existing (.passthrough device)).effect key =
      .set (.text device.text) := by
  cases existing with
  | none => simp [placement, newText, Step.effect]
  | some current =>
    cases current with
    | passthrough before =>
      have hne : device.text ≠ before.text := fun htext ↦
        hexisting before rfl (Passthrough.path_eq_of_text_eq htext ▸ h)
      simp [placement, replace, hne, Step.effect]
    | cdrom => simp [placement, replace, newText, Step.effect]
    | cloudInit => simp [placement, replace, newText, Step.effect]
    | disk => simp [placement, replace, newText, Step.effect]

end placing

/-- A drive is a device of the host only if its path is the volume that was read. -/
theorem token?_of_ofOptions_eq_passthrough {options : OptionList} {device : Passthrough}
    (h : ofOptions options = .ok (.passthrough device)) :
    token? options = some device.path.text := by
  rw [ofOptions] at h
  rw [token?]
  split at h
  · cases h
  · next volume hvolume =>
    split at h
    · unfold ofMedia at h
      repeat' split at h
      all_goals
        obtain ⟨_, -, h⟩ := map_eq_ok_iff.1 h
        cases h
    · split at h
      · simp only [bind_eq_ok_iff, pure_eq_ok_iff] at h
        obtain ⟨path, hpath, options, -, hdevice⟩ := h
        obtain rfl := Drive.passthrough.inj hdevice
        rw [hvolume]
        exact congrArg some (Checked.text_of_parse (mapError_eq_ok_iff.1 hpath)).symm
      · obtain ⟨_, -, h⟩ := map_eq_ok_iff.1 h
        cases h

theorem equals_not_mem_of_decoded? {w : Wire} {key : String} (hplain : w.HasPlainOptions key)
    {device : Passthrough} (h : w.decoded? key decode = .ok (some (.passthrough device))) :
    '=' ∉ device.path.text.toList := by
  obtain ⟨v, s, hv, hnull, hs, hdevice⟩ := Wire.decoded?_eq_some_iff.1 h
  obtain ⟨name, hmem⟩ := exists_of_token? (token?_of_ofOptions_eq_passthrough hdevice)
  exact hplain s (Wire.field?_eq_some_iff.2 ⟨v, hv, hnull, hs⟩) _ hmem

end Drive

/-! ## All drives -/

namespace Disks

variable {w w' : Wire} {guest : GuestId} {before desired : Disks} {iso : Option IsoImage}

/-- The drive in a slot was read under a key of the slot. -/
theorem exists_decoded?_of_current {bus : Bus}
    (h : w.slots bus.kind bus.stem Drive.decode = .ok (before.onBus bus)) {slot : Slot bus.kind}
    {drive : Drive} (hdrive : before.current bus slot = some drive) :
    ∃ key, Slot.ofKey? bus.stem key = some slot ∧
      w.decoded? key Drive.decode = .ok (some drive) := by
  rw [current] at hdrive
  cases hon : before.onBus bus with
  | none =>
    rw [hon] at hdrive
    cases hdrive
  | some drives =>
    rw [hon] at h hdrive
    exact Wire.exists_of_slots h hdrive

/-- The drives of a bus stay readable exactly if no device with a `=` in its path is asked
for. -/
theorem exists_slots_iff_of_planOn {bus : Bus}
    (hoptions : ∀ (slot : Slot bus.kind) (key : String), Slot.ofKey? bus.stem key = some slot →
      w.HasPlainOptions key)
    (hslots : w.slots bus.kind bus.stem Drive.decode = .ok (before.onBus bus))
    (hnames : ∀ slot drive, desired.asked iso bus slot = some (some drive) → drive.HasPlainNames)
    (hafter : ∀ key, (Slot.ofKey? bus.stem key : Option (Slot bus.kind)).isSome → w'.get? key =
      ((planOn (some guest) before desired iso bus).effect key).applyTo (w.get? key)) :
    (∃ found, w'.slots bus.kind bus.stem Drive.decode = .ok found) ↔
      ∀ slot device, desired.asked iso bus slot = some (some (.passthrough device)) →
        '=' ∉ device.path.text.toList := by
  constructor
  · intro hfound slot device hasked hequals
    have heffect := effect_planOn (some guest) before desired iso bus slot
    rw [hasked, slotEffect, Drive.effect_place_of_equals hequals fun old hold ↦ ?_] at heffect
    · -- the text that was written under the key of the slot cannot be read
      have hwritten := hafter (slot.key bus.stem) (by rw [Slot.ofKey?_key]; rfl)
      rw [heffect, Effect.set_applyTo] at hwritten
      obtain ⟨o, ho⟩ := Wire.exists_slots_iff.1 hfound slot _ (Slot.ofKey?_key bus.stem slot)
      cases o with
      | none =>
        rcases Wire.field?_eq_none_iff.1 ho with hnone | hnull
        · rw [hwritten] at hnone
          cases hnone
        · rw [hwritten] at hnull
          cases hnull
      | some drive =>
        obtain ⟨v, s, hv, -, hs, hdrive⟩ := Wire.decoded?_eq_some_iff.1 ho
        obtain rfl := Option.some.inj (hwritten.symm.trans hv)
        obtain rfl := Except.ok.inj hs
        exact Passthrough.exists_decode_text_iff.1 ⟨drive, hdrive⟩ hequals
    · obtain ⟨key, hkey, hdecoded⟩ := exists_decoded?_of_current hslots hold
      exact Drive.equals_not_mem_of_decoded? (hoptions slot key hkey) hdecoded
  · intro hpaths
    refine Wire.exists_slots_of_writes hslots hafter fun key value reboot hset ↦ ?_
    cases planStep_of_mem_planOn hset with
    | @place slot drive _ hasked hstep =>
      refine Drive.writesReadable_place (hnames slot drive hasked) (fun device hdevice ↦ ?_)
        (fun image himage ↦ ?_) key value reboot hstep
      · exact hpaths slot device (hdevice ▸ hasked)
      · obtain ⟨key, hkey, hdecoded⟩ := exists_decoded?_of_current hslots himage
        exact Drive.isStored_of_decoded? (hoptions slot key hkey) hdecoded

theorem exists_ofWire_iff_slots :
    (∃ disks, ofWire w = .ok disks) ↔
      ∀ bus : Bus, ∃ found, w.slots bus.kind bus.stem Drive.decode = .ok found := by
  constructor
  · rintro ⟨disks, hdisks⟩ bus
    exact ⟨_, (ofWire_eq_ok_iff.1 hdisks).1 bus⟩
  · intro h
    obtain ⟨ide, hide⟩ := h .ide
    obtain ⟨sata, hsata⟩ := h .sata
    obtain ⟨scsi, hscsi⟩ := h .scsi
    obtain ⟨virtio, hvirtio⟩ := h .virtio
    obtain ⟨disks, hdisks, hne⟩ := exists_getD_eq ({ } : Disks) ⟨ide, sata, scsi, virtio⟩
    refine ⟨disks, ofWire_eq_ok_iff.2 ⟨fun bus ↦ ?_, hne⟩⟩
    rw [hdisks]
    cases bus <;> assumption

/-- **The drives of a guest stay readable exactly if no device with a `=` in its path is asked
for.** -/
theorem exists_ofWire_iff {current wanted : Option Disks}
    (hoptions : ∀ (bus : Bus) (slot : Slot bus.kind) (key : String),
      Slot.ofKey? bus.stem key = some slot → w.HasPlainOptions key)
    (h : ofWire w = .ok current)
    (hnames : ∀ (bus : Bus) (slot : Slot bus.kind) drive,
      (wanted.getD { }).asked iso bus slot = some (some drive) → drive.HasPlainNames)
    (hafter : w'.Follows .disks (plan (some guest) current wanted iso) w) :
    (∃ after, ofWire w' = .ok after) ↔
      ∀ (bus : Bus) (slot : Slot bus.kind) device,
        (wanted.getD { }).asked iso bus slot = some (some (.passthrough device)) →
          '=' ∉ device.path.text.toList := by
  rw [exists_ofWire_iff_slots]
  exact forall_congr' fun bus ↦ exists_slots_iff_of_planOn (hoptions bus)
    ((ofWire_eq_ok_iff.1 h).1 bus) (hnames bus) fun _ hkey ↦ get?_of_follows hafter bus hkey

end Disks

end GuestConfig
