import GuestConfig.Proofs.Settling.Drive
import GuestConfig.Proofs.WellFormed
import Mathlib.Data.Finset.Card

/-!
# The cloud-init drives of a guest after an update

A guest has one drive with cloud-init settings at most, whichever bus it is on.  The rule counts the
drives that are asked for.  A bus that is not mentioned keeps its drives, though, and those are not
counted: a cloud-init drive that is asked for on one bus may join one that stays on another.

What a guest has afterwards is put together bus by bus, and is read slot by slot: what is asked for
in a slot, and otherwise what was there.

## What is here

* `Disks.updated` — the drives of a guest after an update, and `Disks.current_updated`, what is in
  each of its slots.
* `Disks.length_cloudInitDrives_le_one_iff` — there is one cloud-init drive at most exactly if no
  two slots hold one.
* `Disks.JoinsCloudInit` — a cloud-init drive is asked for beside one that stays.
* `Configuration.mem_deleted_change_iff_updatedDrives` — the drives that an update removes.
* `planUpdate_cloudInitDrives_iff` — **an update leaves one cloud-init drive at most exactly if it
  joins none to one that stays**, and `planUpdate_joins_cloudInit`, an update that does.
-/

set_option autoImplicit false

namespace GuestConfig

namespace Disks

/-! ## What a guest has afterwards -/

/-- The drives of a guest after an update: on each bus those that are asked for, or those that were
there if the bus is not mentioned, with the installation image in its slot. -/
def updated (before after : Disks) (iso : Option IsoImage) : Disks where
  ide :=
    match iso with
    | some image =>
      some (((after.ide.or before.ide).getD .empty).insert mediaSlot (.cdrom (.iso image)))
    | none => after.ide.or before.ide
  sata := after.sata.or before.sata
  scsi := after.scsi.or before.scsi
  virtio := after.virtio.or before.virtio

/-- **What is in a slot afterwards** is what is asked for there, and otherwise what was there. -/
theorem current_updated (before after : Disks) (iso : Option IsoImage) (bus : Bus)
    (slot : Slot bus.kind) :
    (before.updated after iso).current bus slot =
      (after.asked iso bus slot).getD (before.current bus slot) := by
  have hbus (hon : (before.updated after iso).onBus bus = (after.onBus bus).or (before.onBus bus))
      (hasked : after.asked iso bus slot = (after.onBus bus).map (·.get? slot)) :
      (before.updated after iso).current bus slot =
        (after.asked iso bus slot).getD (before.current bus slot) := by
    rw [current, hon, hasked, current]
    cases after.onBus bus <;> rfl
  have hother (hne : bus ≠ .ide) :
      after.asked iso bus slot = (after.onBus bus).map (·.get? slot) :=
    asked_of_ne (Bus.key_ne hne slot mediaSlot)
  cases bus with
  | sata => exact hbus rfl (hother (by decide))
  | scsi => exact hbus rfl (hother (by decide))
  | virtio => exact hbus rfl (hother (by decide))
  | ide =>
    cases iso with
    | none => exact hbus rfl rfl
    | some image =>
      by_cases hslot : slot = mediaSlot
      · subst hslot
        exact SortedMap.get?_insert_self _ _ _
      · have hasked : after.asked (some image) .ide slot = after.ide.map (·.get? slot) :=
          asked_of_ne fun heq ↦ hslot (Slot.key_inj heq)
        rw [hasked]
        refine (SortedMap.get?_insert_of_ne _ _ hslot).trans ?_
        rw [current, onBus]
        cases after.ide <;> rfl

/-! ## Cloud-init drives -/

/-- The drives with cloud-init settings, over all buses. -/
def cloudInitDrives (disks : Disks) : List (Bus × String × Drive) :=
  disks.drives.filter fun (_, _, drive) ↦ drive.isCloudInit

/-- A slot with a cloud-init drive. -/
def HoldsCloudInit (disks : Disks) (bus : Bus) (slot : Slot bus.kind) : Prop :=
  ∃ drive, disks.current bus slot = some drive ∧ drive.isCloudInit = true

/-- Every drive has a key of its own. -/
theorem nodup_map_key_drives (disks : Disks) : (disks.drives.map fun e ↦ e.2.1).Nodup := by
  rw [drives, List.map_flatMap, List.nodup_flatMap]
  constructor
  · intro bus _
    rw [drivesOn, List.map_map]
    exact Slot.nodup_map_key bus.stem _
  · have hall : Bus.all.Nodup := by decide
    refine hall.imp fun {bus other} hne key hkey hkey' ↦ ?_
    obtain ⟨_, hmem, rfl⟩ := List.mem_map.1 hkey
    obtain ⟨_, hmem', heq⟩ := List.mem_map.1 hkey'
    obtain ⟨e, -, rfl⟩ := List.mem_map.1 hmem
    obtain ⟨e', -, rfl⟩ := List.mem_map.1 hmem'
    exact Bus.key_ne hne e.1 e'.1 heq.symm

theorem mem_map_key_cloudInitDrives_iff {disks : Disks} {key : String} :
    key ∈ (disks.cloudInitDrives.map fun e ↦ e.2.1) ↔
      ∃ (bus : Bus) (slot : Slot bus.kind),
        key = slot.key bus.stem ∧ disks.HoldsCloudInit bus slot := by
  constructor
  · intro hkey
    obtain ⟨e, he, rfl⟩ := List.mem_map.1 hkey
    obtain ⟨hmem, hcloud⟩ := List.mem_filter.1 he
    obtain ⟨bus, -, hbus⟩ := List.mem_flatMap.1 hmem
    obtain ⟨⟨slot, drive⟩, hdrive, rfl⟩ := List.mem_map.1 hbus
    exact ⟨bus, slot, rfl, drive, (SortedMap.mem_toList_iff _).1 hdrive, hcloud⟩
  · rintro ⟨bus, slot, rfl, drive, hdrive, hcloud⟩
    exact List.mem_map.2 ⟨_, List.mem_filter.2 ⟨mem_drives hdrive, hcloud⟩, rfl⟩

/-- **There is one cloud-init drive at most exactly if no two slots hold one.** -/
theorem length_cloudInitDrives_le_one_iff {disks : Disks} :
    disks.cloudInitDrives.length ≤ 1 ↔
      ∀ (bus : Bus) (slot : Slot bus.kind) (bus' : Bus) (slot' : Slot bus'.kind),
        disks.HoldsCloudInit bus slot → disks.HoldsCloudInit bus' slot' →
          slot.key bus.stem = slot'.key bus'.stem := by
  have hnodup : (disks.cloudInitDrives.map fun e ↦ e.2.1).Nodup :=
    disks.nodup_map_key_drives.sublist (List.filter_sublist.map _)
  have hlength : disks.cloudInitDrives.length ≤ 1 ↔
      ∀ key ∈ (disks.cloudInitDrives.map fun e ↦ e.2.1),
        ∀ key' ∈ (disks.cloudInitDrives.map fun e ↦ e.2.1), key = key' := by
    rw [← List.length_map fun e ↦ e.2.1, ← List.toFinset_card_of_nodup hnodup, Finset.card_le_one]
    simp only [List.mem_toFinset]
  simp only [hlength, mem_map_key_cloudInitDrives_iff]
  constructor
  · exact fun h bus slot bus' slot' hholds hholds' ↦
      h _ ⟨bus, slot, rfl, hholds⟩ _ ⟨bus', slot', rfl, hholds'⟩
  · rintro h _ ⟨bus, slot, rfl, hholds⟩ _ ⟨bus', slot', rfl, hholds'⟩
    exact h bus slot bus' slot' hholds hholds'

/-! ## Updates of drives -/

/-- A cloud-init drive that an update leaves where it is: nothing is asked for in its slot. -/
structure KeepsCloudInit (before after : Disks) (iso : Option IsoImage) (bus : Bus)
    (slot : Slot bus.kind) : Prop where
  /-- It is there. -/
  holds : before.HoldsCloudInit bus slot
  /-- Its bus is not mentioned, and the installation image does not take its slot. -/
  asked_eq : after.asked iso bus slot = none

/-- A cloud-init drive is asked for, and one stays where it is. -/
def JoinsCloudInit (before after : Disks) (iso : Option IsoImage) : Prop :=
  (∃ bus slot, after.HoldsCloudInit bus slot) ∧ ∃ bus slot, before.KeepsCloudInit after iso bus slot

section updates

variable {before after : Disks} {iso : Option IsoImage}

/-- A cloud-init drive that is asked for is asked for in its slot. -/
theorem HoldsCloudInit.asked_isSome {bus : Bus} {slot : Slot bus.kind}
    (h : after.HoldsCloudInit bus slot) (hmedia : (iso.isSome && after.usesMediaSlot) = false) :
    ∃ drive, after.asked iso bus slot = some (some drive) ∧ drive.isCloudInit = true := by
  obtain ⟨drive, hdrive, hcloud⟩ := h
  rw [current, SortedMap.get?_getD_empty] at hdrive
  exact ⟨drive, asked_of_get? hdrive hmedia, hcloud⟩

/-- A cloud-init drive that a guest has afterwards was asked for or stays. -/
theorem holdsCloudInit_updated_iff (hmedia : (iso.isSome && after.usesMediaSlot) = false)
    {bus : Bus} {slot : Slot bus.kind} :
    (before.updated after iso).HoldsCloudInit bus slot ↔
      after.HoldsCloudInit bus slot ∨ before.KeepsCloudInit after iso bus slot := by
  constructor
  · rintro ⟨drive, hdrive, hcloud⟩
    rw [current_updated] at hdrive
    cases hasked : after.asked iso bus slot with
    | none =>
      rw [hasked] at hdrive
      exact .inr ⟨⟨drive, hdrive, hcloud⟩, hasked⟩
    | some wanted =>
      rw [hasked] at hdrive
      obtain rfl : wanted = some drive := hdrive
      rcases asked_cases hasked with ⟨_, _, rfl⟩ | hget
      · cases hcloud
      · exact .inl ⟨drive, hget, hcloud⟩
  · rintro (hholds | ⟨⟨drive, hdrive, hcloud⟩, hasked⟩)
    · obtain ⟨drive, hasked, hcloud⟩ := hholds.asked_isSome hmedia
      exact ⟨drive, by rw [current_updated, hasked]; rfl, hcloud⟩
    · exact ⟨drive, by rw [current_updated, hasked]; exact hdrive, hcloud⟩

/-- There is one cloud-init drive at most afterwards exactly if none joins one that stays. -/
theorem length_cloudInitDrives_updated_iff (hbefore : before.cloudInitDrives.length ≤ 1)
    (hafter : after.cloudInitDrives.length ≤ 1)
    (hmedia : (iso.isSome && after.usesMediaSlot) = false) :
    (before.updated after iso).cloudInitDrives.length ≤ 1 ↔ ¬before.JoinsCloudInit after iso := by
  rw [length_cloudInitDrives_le_one_iff] at hbefore hafter ⊢
  simp only [holdsCloudInit_updated_iff hmedia]
  constructor
  · rintro hone ⟨⟨bus, slot, hholds⟩, bus', slot', hkeeps⟩
    -- one drive cannot be asked for and stay without being asked for
    have hkey := hone bus slot bus' slot' (.inl hholds) (.inr hkeeps)
    obtain rfl : bus = bus' :=
      Decidable.byContradiction fun hne ↦ Bus.key_ne hne slot slot' hkey
    obtain rfl := Slot.key_inj hkey
    obtain ⟨drive, hasked, -⟩ := hholds.asked_isSome hmedia
    exact Option.some_ne_none _ (hasked.symm.trans hkeeps.asked_eq)
  · intro hjoins bus slot bus' slot' h h'
    rcases h with hholds | hkeeps <;> rcases h' with hholds' | hkeeps'
    · exact hafter bus slot bus' slot' hholds hholds'
    · exact absurd ⟨⟨bus, slot, hholds⟩, bus', slot', hkeeps'⟩ hjoins
    · exact absurd ⟨⟨bus', slot', hholds'⟩, bus, slot, hkeeps⟩ hjoins
    · exact hbefore bus slot bus' slot' hkeeps.holds hkeeps'.holds

end updates

end Disks

/-! ## Updates -/

namespace Configuration

/-- The drives of a configuration; it may have none. -/
def drives (c : Configuration) : Disks :=
  c.disks.getD { }

/-- The drives that a guest has after an update. -/
def updatedDrives (current desired : Configuration) : Disks :=
  current.drives.updated desired.drives desired.iso

/-- **A drive is removed exactly if the guest does not have it after the update.** -/
theorem mem_deleted_change_iff_updatedDrives {version : Version} {guest : GuestId}
    {current desired : Configuration} {bus : Bus} {slot : Slot bus.kind} :
    slot.key bus.stem ∈ (desired.plan version (some guest) (some current)).change.deleted ↔
      (current.drives.current bus slot).isSome ∧
        (current.updatedDrives desired).current bus slot = none := by
  rw [Draft.mem_deleted_change_iff_effect, effect_plan, bus.owner?_key]
  dsimp only
  rw [planOnly_eq]
  dsimp only
  rw [Disks.effect_plan _ _ _ _ (bus.keyName_key slot), Disks.effect_planOn, updatedDrives,
    Disks.current_updated, ← drives, ← drives]
  cases hasked : desired.drives.asked desired.iso bus slot with
  | none => simp [Disks.slotEffect, Option.isSome_iff_ne_none]
  | some wanted =>
    cases wanted with
    | none => simp [Disks.slotEffect, Option.isSome_iff_ne_none]
    | some drive =>
      -- a drive is placed by setting its key
      refine iff_of_false (fun heffect ↦ ?_) fun h ↦ Option.some_ne_none drive h.2
      obtain ⟨reboot, hstep⟩ := Draft.mem_deleted_change_iff.1
        (Draft.mem_deleted_change_iff_effect.2 heffect)
      exact Drive.not_delete_mem_place hstep

end Configuration

/-- **An update leaves one cloud-init drive at most exactly if it joins none to one that stays.**
What it leaves are all drives that it does not remove, and those that it places. -/
theorem planUpdate_cloudInitDrives_iff {version : Version} {guest : GuestId}
    {current desired : Configuration} {change : Change}
    (hcurrent : current.drives.cloudInitDrives.length ≤ 1)
    (hchange : (planUpdate version guest current desired).result = .ok change) :
    (∀ (bus : Bus) (slot : Slot bus.kind), slot.key bus.stem ∈ change.deleted ↔
      (current.drives.current bus slot).isSome ∧
        (current.updatedDrives desired).current bus slot = none) ∧
    ((current.updatedDrives desired).cloudInitDrives.length ≤ 1 ↔
      ¬current.drives.JoinsCloudInit desired.drives desired.iso) := by
  obtain ⟨hvalid, -, rfl⟩ := planUpdate_eq_ok_iff.1 hchange
  have hasked : desired.drives.cloudInitDrives.length ≤ 1 := by
    rw [Configuration.drives]
    cases hdisks : desired.disks with
    | none => exact Nat.zero_le 1
    | some disks =>
      have hrules := (Configuration.validate_eq_ok_iff.1 hvalid).disks disks hdisks
      exact of_decide_eq_true (require_eq_ok_iff.1 (bind_unit_eq_ok_iff.1 hrules).2)
  exact ⟨fun bus slot ↦ Configuration.mem_deleted_change_iff_updatedDrives,
    Disks.length_cloudInitDrives_updated_iff hcurrent hasked
      (Configuration.usesMediaSlot_of_validate hvalid)⟩

/-- A guest with a cloud-init drive. -/
def cloudGuest : Wire :=
  .ofList [("ide2", .text "local-lvm:vm-100-cloudinit,media=cdrom,size=4M")]

/-- The cloud-init drive of that guest, and any other one on its storage. -/
def cloudDrive : Drive :=
  .cloudInit { storage := "local-lvm" }

/-- The drives of that guest. -/
def cloudDrives : Disks where
  ide := some (.ofList [(Disks.mediaSlot, cloudDrive)])

/-- What is asked for to move the cloud-init drive on its bus. -/
def movedCloudGuest : Configuration where
  disks := some { ide := some (.ofList [(.first .ide, cloudDrive)]) }

/-- The drive is written into its new slot, and the old one is removed. -/
theorem planUpdate_cloudInitDrives_iff_of_moved :
    ∃ (current : Configuration) (change : Change),
      Configuration.ofWire cloudGuest = .ok current ∧
      current.drives.cloudInitDrives.length ≤ 1 ∧
      (planUpdate ⟨8, 1, 0⟩ ⟨100, by decide, by decide⟩ current movedCloudGuest).result =
        .ok change ∧
      change.params.keys = ["ide0"] ∧ change.deleted = ["ide2"] ∧
      (current.updatedDrives movedCloudGuest).cloudInitDrives.length ≤ 1 := by
  have h : ((Configuration.ofWire cloudGuest).toOption.bind fun current ↦
      (planUpdate ⟨8, 1, 0⟩ ⟨100, by decide, by decide⟩ current
        movedCloudGuest).result.toOption.bind fun change ↦
          some (current.drives, change.params.keys, change.deleted)) =
      some (cloudDrives, ["ide0"], ["ide2"]) := by
    decide +kernel
  obtain ⟨current, hcurrent, h⟩ := exists_of_toOption_bind h
  obtain ⟨change, hchange, h⟩ := exists_of_toOption_bind h
  obtain ⟨hdrives, h⟩ := Prod.mk.inj (Option.some.inj h)
  obtain ⟨hkeys, hdeleted⟩ := Prod.mk.inj h
  have hone : current.drives.cloudInitDrives.length ≤ 1 := by
    rw [hdrives]
    decide +kernel
  refine ⟨current, change, hcurrent, hone, hchange, hkeys, hdeleted,
    (planUpdate_cloudInitDrives_iff hone hchange).2.2 ?_⟩
  rintro ⟨-, bus, slot, ⟨drive, hdrive, -⟩, hasked⟩
  rw [hdrives] at hdrive
  cases bus with
  | ide => cases hasked
  | sata | scsi | virtio => cases hdrive

/-- What is asked for to have a cloud-init drive on another bus. -/
def secondCloudGuest : Configuration where
  disks := some { scsi := some (.ofList [(.first .scsi, cloudDrive)]) }

/-- A cloud-init drive on another bus is written beside the one that stays. -/
theorem planUpdate_joins_cloudInit :
    ∃ (current : Configuration) (change : Change),
      Configuration.ofWire cloudGuest = .ok current ∧
      current.drives.cloudInitDrives.length ≤ 1 ∧
      (planUpdate ⟨8, 1, 0⟩ ⟨100, by decide, by decide⟩ current secondCloudGuest).result =
        .ok change ∧
      change.params.keys = ["scsi0"] ∧ change.deleted = [] ∧
      (current.updatedDrives secondCloudGuest).cloudInitDrives =
        [(.ide, "ide2", cloudDrive), (.scsi, "scsi0", cloudDrive)] := by
  have h : ((Configuration.ofWire cloudGuest).toOption.bind fun current ↦
      (planUpdate ⟨8, 1, 0⟩ ⟨100, by decide, by decide⟩ current
        secondCloudGuest).result.toOption.bind fun change ↦
          some (current.drives, change.params.keys, change.deleted)) =
      some (cloudDrives, ["scsi0"], []) := by
    decide +kernel
  obtain ⟨current, hcurrent, h⟩ := exists_of_toOption_bind h
  obtain ⟨change, hchange, h⟩ := exists_of_toOption_bind h
  obtain ⟨hdrives, h⟩ := Prod.mk.inj (Option.some.inj h)
  obtain ⟨hkeys, hdeleted⟩ := Prod.mk.inj h
  refine ⟨current, change, hcurrent, ?_, hchange, hkeys, hdeleted, ?_⟩
  · rw [hdrives]
    decide +kernel
  · rw [Configuration.updatedDrives, hdrives]
    decide +kernel

end GuestConfig
