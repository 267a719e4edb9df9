import GuestConfig.Proofs.Disk.Revision
import GuestConfig.Proofs.Wire.Settling

/-!
# Drives that were planned are settled

A drive that replaces another kind of drive is written anew, and so are media and devices of the
host.  A disk that is revised keeps its volume or moves to another one.  Either way the volume that
was written is the one that the disk is read to be in, and the next plan names it again.

## What is here

* `Drive.settles_replace_disk` — **a disk in the place of another one reads back as what was asked
  for**, and is settled.
* `Drive.IsStorable` and `Drive.settles_place` — **a drive is settled.**
* `Drive.isStored_of_token?` — the disks that can be written again.
* `Disks.settles` — all drives.
-/

set_option autoImplicit false

namespace GuestConfig

open Text (isPlainName)

/-! ## Disks -/

/-- A new disk reads back as one that is not revised. -/
theorem Disk.exists_decode_newText_settled (bus : Bus) (guest : GuestId) {desired : Disk}
    (hplain : isPlainName desired.storage = true) (hstorage : desired.storage ≠ "")
    (hid : desired.id = none) :
    ∃ after, Drive.decode desired.newText = .ok (.disk after) ∧
      revise bus (some guest) desired after = some none := by
  obtain ⟨kept, hdecode⟩ := exists_decode_newText hplain hstorage
  refine ⟨_, hdecode, revise_eq_none (moves_eq_false_of_none ?_ hid) rfl ?_ ?_⟩
  · exact String.ofList_toList.symm
  · have h (a b : UInt64) : min a b = if a ≤ b then a else b := rfl
    rw [h]
    split
    · next hle => exact UInt64.le_antisymm hle (UInt64.zero_le)
    · rfl
  · exact DriveOptions.stored_stored _

/-! ## Drives -/

namespace Drive

/-- The drives that can be stored: their names are plain, no path of a device has a `=`, and none of
them holds cloud-init settings. -/
def IsStorable : Drive → Prop
  | cdrom media => media.IsStorable
  | cloudInit _ => False
  | disk image => isPlainName image.storage = true
  | passthrough device => '=' ∉ device.path.text.toList

section settling

variable {bus : Bus} {guest : GuestId} {key : String} {drive : Drive}

/-- A drive that was written anew is not replaced. -/
theorem exists_decode_newText (bus : Bus) (guest : GuestId) (key : String) (h : drive.IsStorable)
    (hstorage : ∀ image, drive = .disk image → image.storage ≠ "")
    (hid : ∀ image, drive = .disk image → image.id = none) :
    ∃ after, decode drive.newText = .ok after ∧ replace bus (some guest) key after drive = [] := by
  cases drive with
  | cdrom media => exact ⟨.cdrom media, CdRom.decode_text h, by simp [replace]⟩
  | cloudInit => exact h.elim
  | disk image =>
    obtain ⟨after, hdecode, hrevise⟩ :=
      Disk.exists_decode_newText_settled bus guest h (hstorage image rfl) (hid image rfl)
    exact ⟨.disk after, hdecode, by simp only [replace, hrevise, setIf]⟩
  | passthrough device =>
    refine ⟨_, Passthrough.decode_text h, ?_⟩
    simp [replace, Passthrough.text, DriveOptions.entries_stored]

/-- What it takes to replace a drive: a disk that takes the place of another one is revised, and
otherwise there is nothing to do or a new text. -/
theorem replace_cases (bus : Bus) (guest : Option GuestId) (key : String) (current drive : Drive)
    (h : drive.isCloudInit = false) :
    (∃ before after, current = .disk before ∧ drive = .disk after) ∨
      (∀ image, drive = .disk image → ∀ before, current ≠ .disk before) ∧
        (replace bus guest key current drive = [] ∨
          ∃ reboot, replace bus guest key current drive =
            [.set key (.text drive.newText) reboot]) := by
  unfold replace
  split
  · refine .inr ⟨fun _ h ↦ Drive.noConfusion h, ?_⟩
    split
    · exact .inl rfl
    · exact .inr ⟨_, rfl⟩
  · exact .inl ⟨_, _, rfl, rfl⟩
  · refine .inr ⟨fun _ h ↦ Drive.noConfusion h, ?_⟩
    split
    · exact .inl rfl
    · exact .inr ⟨_, rfl⟩
  · cases h
  · next hother _ _ => exact .inr ⟨fun image himage before hbefore ↦ hother _ _ himage hbefore,
      .inr ⟨_, rfl⟩⟩

/-- **A disk that was planned where another one is reads back as what was asked for**, and is
settled. -/
theorem settles_replace_disk (key : String) {before after : Disk} (hbefore : before.IsStored)
    (hplain : isPlainName after.storage = true)
    (hrefusal : (replace bus (some guest) key (.disk before) (.disk after)).refusal? = none) :
    ((replace bus (some guest) key (.disk before) (.disk after)).effect key).Settles decode
      (some (.disk before)) fun found ↦ ∃ revised, found = some (.disk revised) ∧
        after.Revises before revised ∧
          replace bus (some guest) key (.disk revised) (.disk after) = [] := by
  have hkeep {found : Disk} (h : Disk.revise bus (some guest) after found = some none) :
      replace bus (some guest) key (.disk found) (.disk after) = [] := by
    simp only [replace, h, setIf]
  cases hrevise : Disk.revise bus (some guest) after before with
  | none => simp [replace, hrevise, Draft.refusal?] at hrefusal
  | some update =>
    cases update with
    | none =>
      rw [hkeep hrevise]
      exact ⟨before, rfl, Disk.revises_of_revise_eq_none hbefore hplain hrevise, hkeep hrevise⟩
    | some update =>
      obtain ⟨text, reboot⟩ := update
      obtain ⟨revised, hread, hrevises, hsettled⟩ :=
        Disk.exists_decode_revise hbefore hplain hrevise
      have hreplace : replace bus (some guest) key (.disk before) (.disk after) =
          [.set key (.text text) reboot] := by
        simp only [replace, hrevise, setIf]
      rw [hreplace]
      simp only [Draft.effect_cons, Draft.effect_nil, Step.effect, if_true, Effect.andThen_keep]
      exact ⟨text, .disk revised, rfl, hread, revised, rfl, hrevises, hkeep hsettled⟩

/-- **A drive that was planned is settled.** -/
theorem settles_place {existing : Option Drive} (h : drive.IsStorable)
    (hstorage : ∀ image, drive = .disk image → image.storage ≠ "")
    (hid : ∀ image, drive = .disk image → image.id.isSome →
      ∃ before, existing = some (.disk before))
    (hexisting : ∀ image, existing = some (.disk image) → image.IsStored)
    (hrefusal : ((placement bus (some guest)).place key existing drive).refusal? = none) :
    (((placement bus (some guest)).place key existing drive).effect key).Settles decode existing
      fun after ↦ (placement bus (some guest)).place key after drive = [] := by
  have hset (reboot : Bool)
      (hplace : (placement bus (some guest)).place key existing drive =
        [.set key (.text drive.newText) reboot])
      (hdisk : ∀ image, drive = .disk image → ∀ before, existing ≠ some (.disk before)) :
      (((placement bus (some guest)).place key existing drive).effect key).Settles decode existing
        fun after ↦ (placement bus (some guest)).place key after drive = [] := by
    have hnone (image : Disk) (himage : drive = .disk image) : image.id = none := by
      refine Option.eq_none_iff_forall_ne_some.2 fun id himageId ↦ ?_
      obtain ⟨before, hbefore⟩ := hid image himage (by rw [himageId]; rfl)
      exact hdisk image himage before hbefore
    obtain ⟨after, hdecode, hreplace⟩ := exists_decode_newText bus guest key h hstorage hnone
    rw [hplace]
    simp only [Draft.effect_cons, Draft.effect_nil, Step.effect, if_true, Effect.andThen_keep]
    exact ⟨_, after, rfl, hdecode, hreplace⟩
  cases existing with
  | none => exact hset _ rfl fun _ _ before h ↦ (Option.some_ne_none _ h.symm).elim
  | some current =>
    have hcloud : drive.isCloudInit = false := by
      cases drive <;> first | rfl | exact h.elim
    rcases replace_cases bus (some guest) key current drive hcloud with
      ⟨before, after, hbefore, hafter⟩ | ⟨hother, hkeep | ⟨reboot, hnew⟩⟩
    · subst hbefore hafter
      refine (settles_replace_disk key (hexisting before rfl) h hrefusal).mono ?_
      rintro found ⟨revised, rfl, -, hsettled⟩
      exact hsettled
    · have hplace : (placement bus (some guest)).place key (some current) drive = [] := hkeep
      rw [hplace]
      exact hplace
    · exact hset reboot hnew fun image himage before hbefore ↦
        hother image himage before (Option.some.inj hbefore)

end settling

theorem exists_of_token? {options : OptionList} {volume : String}
    (h : token? options = some volume) : ∃ name, ⟨name, volume⟩ ∈ options.entries := by
  rcases Option.or_eq_some_iff.1 h with hfile | ⟨-, hleading⟩
  · exact ⟨_, OptionList.exists_of_get? hfile⟩
  · exact ⟨_, OptionList.exists_of_leading? hleading⟩

/-- **A disk can be written again if the name of its volume has no `=`.** -/
theorem isStored_of_token? {s volume : String} {image : Disk} (h : decode s = .ok (.disk image))
    (htoken : token? (.parse s) = some volume) (hequals : '=' ∉ volume.toList) :
    image.IsStored := by
  obtain ⟨volume', htoken', -, hpath, hdisk⟩ := ofOptions_eq_disk_iff.1 h
  obtain rfl : volume' = volume := Option.some.inj (htoken'.symm.trans htoken)
  obtain ⟨name, hmem⟩ := exists_of_token? htoken
  refine ⟨volume', .parse s, ⟨(OptionList.isCleanValue_of_mem_parse hmem).1, hequals, ?_⟩,
    hpath, hdisk⟩
  rintro rfl
  -- without a colon there is neither a usual name nor a storage
  obtain ⟨_, _, -, -, ⟨v, _, hparse, -⟩ | ⟨_, _, _, -, hsplit, -⟩⟩ :=
    Disk.ofVolume_eq_ok_iff.1 hdisk
  · cases hparse
  · cases hsplit

/-- A disk that was read under a key without a second `=` can be written again. -/
theorem isStored_of_decoded? {w : Wire} {key : String} (hplain : w.HasPlainOptions key)
    {image : Disk} (h : w.decoded? key decode = .ok (some (.disk image))) : image.IsStored := by
  obtain ⟨v, s, hv, hnull, hs, himage⟩ := Wire.decoded?_eq_some_iff.1 h
  have hoptions := hplain s (Wire.field?_eq_some_iff.2 ⟨v, hv, hnull, hs⟩)
  obtain ⟨volume, htoken, -⟩ := ofOptions_eq_disk_iff.1 himage
  obtain ⟨name, hmem⟩ := exists_of_token? htoken
  exact isStored_of_token? himage htoken (hoptions _ hmem)

end Drive

/-! ## All drives -/

namespace Disks

/-- What is asked for in a slot is the installation image or a drive of its bus. -/
theorem asked_cases {desired : Disks} {iso : Option IsoImage} {bus : Bus} {slot : Slot bus.kind}
    {drive : Drive} (h : desired.asked iso bus slot = some (some drive)) :
    (∃ image, iso = some image ∧ drive = .cdrom (.iso image)) ∨
      ((desired.onBus bus).getD .empty).get? slot = some drive := by
  unfold asked at h
  split at h
  · next image himage =>
    cases h
    exact .inl ⟨image, (Option.filter_eq_some_iff.1 himage).1, rfl⟩
  · obtain ⟨drives, hdrives, hget⟩ := Option.map_eq_some_iff.1 h
    exact .inr (by rw [hdrives]; exact hget)

/-- The drives that can be stored where other drives are: each by itself, and a disk with a number
where there is a disk. -/
structure IsStorable (desired : Disks) (iso : Option IsoImage) (before : Disks) : Prop where
  drive (bus : Bus) (slot : Slot bus.kind) (drive : Drive) :
    ((desired.onBus bus).getD .empty).get? slot = some drive → drive.IsStorable
  iso (image : IsoImage) : iso = some image → image.IsStorable
  id (bus : Bus) (slot : Slot bus.kind) (image : Disk) :
    ((desired.onBus bus).getD .empty).get? slot = some (.disk image) → image.id.isSome →
      ∃ found, before.current bus slot = some (.disk found)

section settling

variable {w w' : Wire} {guest : GuestId} {before desired : Disks} {iso : Option IsoImage}

/-- Nothing is left to do in a slot that holds something. -/
def IsSettledIn (guest : GuestId) (desired : Disks) (iso : Option IsoImage) (bus : Bus)
    (slot : Slot bus.kind) (after : Option Drive) : Prop :=
  match desired.asked iso bus slot with
  | some (some drive) =>
    (Drive.placement bus (some guest)).place (slot.key bus.stem) after drive = []
  | some none => after = none
  | none => True

theorem planOn_eq_nil_of_isSettledIn {after : Disks} {bus : Bus}
    (h : ∀ slot, desired.IsSettledIn guest iso bus slot (after.current bus slot)) :
    planOn (some guest) after desired iso bus = [] := by
  refine planOn_eq_nil (fun slot drive hasked ↦ ?_) fun slot hasked ↦ ?_
  · have hslot := h slot
    rwa [IsSettledIn, hasked] at hslot
  · have hslot := h slot
    rwa [IsSettledIn, hasked] at hslot

theorem storage_ne_of_validate (h : desired.validate = .ok ()) {bus : Bus} {slot : Slot bus.kind}
    {image : Disk} (hdrive : ((desired.onBus bus).getD .empty).get? slot = some (.disk image)) :
    image.storage ≠ "" := by
  have hrules := requireEach_eq_ok_iff.1 (bind_unit_eq_ok_iff.1 h).1 _ (mem_drives hdrive)
  simpa using require_eq_ok_iff.1 (bind_unit_eq_ok_iff.1 hrules).1

/-- A slot is settled. -/
theorem settles_slotEffect {bus : Bus} {slot : Slot bus.kind}
    (hstorable : desired.IsStorable iso before) (hvalid : desired.validate = .ok ())
    (hexisting : ∀ image, before.current bus slot = some (.disk image) → image.IsStored)
    (hrefusal : (planOn (some guest) before desired iso bus).refusal? = none) :
    (slotEffect (some guest) bus (slot.key bus.stem) (before.current bus slot)
      (desired.asked iso bus slot)).Settles Drive.decode (before.current bus slot)
        (desired.IsSettledIn guest iso bus slot) := by
  unfold IsSettledIn
  cases hasked : desired.asked iso bus slot with
  | none => exact trivial
  | some wanted =>
    cases wanted with
    | none =>
      dsimp only [slotEffect]
      cases before.current bus slot <;> exact rfl
    | some drive =>
      -- an installation image is no disk
      refine Drive.settles_place ?_ (fun image himage ↦ ?_) (fun image himage hid ↦ ?_) hexisting
        (refusal?_place_of_planOn hrefusal hasked)
      · rcases asked_cases hasked with ⟨image, himage, rfl⟩ | hdrive
        · exact hstorable.iso image himage
        · exact hstorable.drive bus slot drive hdrive
      · rcases asked_cases hasked with ⟨_, _, rfl⟩ | hdrive
        · cases himage
        · exact storage_ne_of_validate hvalid (himage ▸ hdrive)
      · rcases asked_cases hasked with ⟨_, _, rfl⟩ | hdrive
        · cases himage
        · exact hstorable.id bus slot image (himage ▸ hdrive) hid

/-- The drives of a bus are settled. -/
theorem exists_slots_settled {bus : Bus} (hplain : w.HasPlainKeys bus.kind bus.stem)
    (hoptions : ∀ slot : Slot bus.kind, w.HasPlainOptions (slot.key bus.stem))
    (hslots : w.slots bus.kind bus.stem Drive.decode = .ok (before.onBus bus))
    (hstorable : desired.IsStorable iso before) (hvalid : desired.validate = .ok ())
    (hrefusal : (planOn (some guest) before desired iso bus).refusal? = none)
    (hafter : ∀ key, (Slot.ofKey? bus.stem key : Option (Slot bus.kind)).isSome → w'.get? key =
      ((planOn (some guest) before desired iso bus).effect key).applyTo (w.get? key)) :
    ∃ found, w'.slots bus.kind bus.stem Drive.decode = .ok found ∧
      ∀ after : Disks, after.onBus bus = found →
        planOn (some guest) after desired iso bus = [] := by
  have hplain' : w'.HasPlainKeys bus.kind bus.stem :=
    hplain.of_effect hafter <|
      (touchesOnly_planOn _ _ _ _ bus).mono fun key ⟨own, hkey⟩ slot hslot ↦ by
        rw [hkey, Slot.ofKey?_key] at hslot
        rw [hkey, Option.some.inj hslot]
  obtain ⟨found, hfound, hsettled⟩ := Wire.exists_slots (p := desired.IsSettledIn guest iso bus)
    hplain hplain' hslots (fun slot ↦ hafter _ (by rw [Slot.ofKey?_key]; rfl)) fun slot ↦ by
      have hcurrent := Wire.decoded?_of_slots (hplain slot) hslots
      rw [effect_planOn]
      exact settles_slotEffect hstorable hvalid
        (fun image himage ↦ Drive.isStored_of_decoded? (hoptions slot) (himage ▸ hcurrent)) hrefusal
  exact ⟨found, hfound, fun after hon ↦ planOn_eq_nil_of_isSettledIn fun slot ↦ by
    rw [current, hon]
    exact hsettled slot⟩

theorem get?_of_follows {current wanted : Option Disks}
    (hafter : w'.Follows .disks (plan (some guest) current wanted iso) w) (bus : Bus) {key : String}
    (hkey : (Slot.ofKey? bus.stem key : Option (Slot bus.kind)).isSome) : w'.get? key =
      ((planOn (some guest) (current.getD { }) (wanted.getD { }) iso bus).effect key).applyTo
        (w.get? key) := by
  obtain ⟨slot, hslot⟩ := Option.isSome_iff_exists.1 hkey
  have hname := Setting.keyName_of_ofKey? bus.stem_all hslot
  have howner : Setting.owner? key = some .disks := by
    rw [Setting.owner?, hname]
    cases bus <;> rfl
  rw [hafter key howner, effect_plan _ _ _ _ hname]

/-- **All drives are settled.** -/
theorem settles {current wanted : Option Disks}
    (hplain : ∀ bus : Bus, w.HasPlainKeys bus.kind bus.stem)
    (hoptions : ∀ (bus : Bus) (slot : Slot bus.kind), w.HasPlainOptions (slot.key bus.stem))
    (h : ofWire w = .ok current) (hstorable : (wanted.getD { }).IsStorable iso (current.getD { }))
    (hvalid : ∀ disks, wanted = some disks → disks.validate = .ok ())
    (hrefusal : (plan (some guest) current wanted iso).refusal? = none)
    (hafter : w'.Follows .disks (plan (some guest) current wanted iso) w) :
    ∃ after, ofWire w' = .ok after ∧ plan (some guest) after wanted iso = [] := by
  have hslots := (ofWire_eq_ok_iff.1 h).1
  have hvalid : (wanted.getD { }).validate = .ok () := by
    cases wanted with
    | none => rfl
    | some disks => exact hvalid disks rfl
  rw [plan_eq_flatMap, Draft.refusal?_flatMap_eq_none_iff] at hrefusal
  have hbus (bus : Bus) := exists_slots_settled (hplain bus) (hoptions bus) (hslots bus) hstorable
    hvalid (hrefusal bus (by cases bus <;> decide)) fun _ hkey ↦ get?_of_follows hafter bus hkey
  obtain ⟨ide, hide, hideNil⟩ := hbus .ide
  obtain ⟨sata, hsata, hsataNil⟩ := hbus .sata
  obtain ⟨scsi, hscsi, hscsiNil⟩ := hbus .scsi
  obtain ⟨virtio, hvirtio, hvirtioNil⟩ := hbus .virtio
  have hnil (bus : Bus) :
      planOn (some guest) ⟨ide, sata, scsi, virtio⟩ (wanted.getD { }) iso bus = [] := by
    cases bus with
    | ide => exact hideNil _ rfl
    | sata => exact hsataNil _ rfl
    | scsi => exact hscsiNil _ rfl
    | virtio => exact hvirtioNil _ rfl
  obtain ⟨after, hafter, hne⟩ := exists_getD_eq ({ } : Disks) ⟨ide, sata, scsi, virtio⟩
  refine ⟨after, ofWire_eq_ok_iff.2 ⟨fun bus ↦ ?_, hne⟩, ?_⟩
  · rw [hafter]
    cases bus <;> assumption
  · rw [plan_eq_flatMap, hafter]
    exact List.flatMap_eq_nil_iff.2 fun bus _ ↦ hnil bus

end settling

end Disks

end GuestConfig
