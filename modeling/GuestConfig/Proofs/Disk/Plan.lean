import GuestConfig.Proofs.Disk.Decode
import GuestConfig.Proofs.Frame

/-!
# The plan for the drives, slot by slot

The drives of the four buses are planned bus by bus, and the installation image is planned with the
IDE bus.  No key belongs to two buses, so that the plan for all drives can be read one slot at a
time.

## What is here

* `Bus.key_ne` — the slots of different buses are different keys.
* `Disks.planOn` — the steps for one bus, and `Disks.effect_plan`: they are all that concerns the
  slots of the bus.
* `Disks.asked` — what is asked for in a slot: nothing, that it is empty, or a drive.
* `Disks.planOn_cases` — what a bus is planned for, and `Disks.effect_planOn`, what that does to a
  slot.
* `Disks.planOn_eq_nil` — when there is nothing to do.
-/

set_option autoImplicit false

namespace GuestConfig

/-! ## Buses -/

namespace Bus

theorem stem_all (bus : Bus) : bus.stem.toList.all (!·.isDigit) = true := by
  cases bus <;> rfl

theorem mem_all (bus : Bus) : bus ∈ all := by
  cases bus <;> decide

theorem stem_inj {bus other : Bus} (h : bus.stem = other.stem) : bus = other := by
  cases bus <;> cases other <;> first | rfl | exact absurd h (by decide)

theorem keyName_key (bus : Bus) (slot : Slot bus.kind) :
    Setting.keyName (slot.key bus.stem) = bus.stem :=
  Setting.keyName_of_ofKey? bus.stem_all (Slot.ofKey?_key bus.stem slot)

theorem owner?_key (bus : Bus) (slot : Slot bus.kind) :
    Setting.owner? (slot.key bus.stem) = some .disks := by
  rw [Setting.owner?, keyName_key]
  cases bus <;> rfl

/-- **The slots of different buses are different keys.** -/
theorem key_ne {bus other : Bus} (h : bus ≠ other) (slot : Slot bus.kind)
    (slot' : Slot other.kind) : slot.key bus.stem ≠ slot'.key other.stem := by
  intro heq
  refine h (stem_inj ?_)
  rw [← bus.keyName_key slot, heq, other.keyName_key slot']

end Bus

/-! ## Steps bus by bus -/

namespace Disks

theorem mem_drives {disks : Disks} {bus : Bus} {slot : Slot bus.kind} {drive : Drive}
    (h : ((disks.onBus bus).getD .empty).get? slot = some drive) :
    (bus, slot.key bus.stem, drive) ∈ disks.drives :=
  List.mem_flatMap.2 ⟨bus, bus.mem_all,
    List.mem_map.2 ⟨(slot, drive), ((disks.onBus bus).getD .empty).mem_toList_iff.2 h, rfl⟩⟩

/-- The steps for one bus. -/
def planOn (guest : Option GuestId) (before after : Disks) (iso : Option IsoImage) : Bus → Draft
  | .ide => planIde guest before.ide after.ide iso
  | bus => planBus guest before after bus

theorem plan_eq_flatMap (guest : Option GuestId) (current desired : Option Disks)
    (iso : Option IsoImage) :
    plan guest current desired iso =
      Bus.all.flatMap (planOn guest (current.getD { }) (desired.getD { }) iso) := rfl

theorem touchesOnly_planOn (guest : Option GuestId) (before after : Disks) (iso : Option IsoImage)
    (bus : Bus) :
    (planOn guest before after iso bus).TouchesOnly
      fun key ↦ ∃ slot : Slot bus.kind, key = slot.key bus.stem := by
  have hlocal (bus : Bus) := Drive.isLocal_placement bus guest
  cases bus with
  | ide =>
    simp only [planOn, planIde]
    split
    · exact Placement.touchesOnly_plan (hlocal .ide) _ _
    · exact Placement.touchesOnly_plan (hlocal .ide) _ _
    · exact ((hlocal .ide).place _ _ _).mono fun key hkey ↦ ⟨mediaSlot, hkey⟩
    · exact Draft.touchesOnly_nil
  | sata => exact Placement.touchesOnly_plan (hlocal .sata) _ _
  | scsi => exact Placement.touchesOnly_plan (hlocal .scsi) _ _
  | virtio => exact Placement.touchesOnly_plan (hlocal .virtio) _ _

/-- **What the plan for the drives does to the keys of a bus is what is planned for that bus.** -/
theorem effect_plan (guest : Option GuestId) (current desired : Option Disks)
    (iso : Option IsoImage) {bus : Bus} {key : String} (hkey : Setting.keyName key = bus.stem) :
    (plan guest current desired iso).effect key =
      (planOn guest (current.getD { }) (desired.getD { }) iso bus).effect key := by
  have hother (other : Bus) (h : bus ≠ other) :
      (planOn guest (current.getD { }) (desired.getD { }) iso other).effect key = .keep :=
    Draft.effect_eq_keep (touchesOnly_planOn guest _ _ iso other) fun ⟨slot, heq⟩ ↦
      h (Bus.stem_inj (by rw [← hkey, heq, other.keyName_key slot]))
  simp only [plan_eq_flatMap, Bus.all, List.flatMap_cons, List.flatMap_nil, Draft.effect_append,
    Draft.effect_nil, Effect.andThen_keep]
  cases bus with
  | ide =>
    rw [hother .sata nofun, hother .scsi nofun, hother .virtio nofun]
    simp only [Effect.andThen_keep]
  | sata =>
    rw [hother .ide nofun, hother .scsi nofun, hother .virtio nofun]
    simp only [Effect.andThen_keep, Effect.keep_andThen]
  | scsi =>
    rw [hother .ide nofun, hother .sata nofun, hother .virtio nofun]
    simp only [Effect.andThen_keep, Effect.keep_andThen]
  | virtio =>
    rw [hother .ide nofun, hother .sata nofun, hother .scsi nofun]
    simp only [Effect.keep_andThen]

/-! ## Steps slot by slot -/

/-- What is asked for in a slot: nothing at all, that it is empty, or a drive.  The installation
image is asked for in its slot whether or not the bus is mentioned. -/
def asked (desired : Disks) (iso : Option IsoImage) (bus : Bus) (slot : Slot bus.kind) :
    Option (Option Drive) :=
  match iso.filter fun _ ↦ slot.key bus.stem = mediaKey with
  | some image => some (some (.cdrom (.iso image)))
  | none => (desired.onBus bus).map (·.get? slot)

/-- In other slots than that of the installation image its bus alone counts. -/
theorem asked_of_ne {desired : Disks} {iso : Option IsoImage} {bus : Bus} {slot : Slot bus.kind}
    (h : slot.key bus.stem ≠ mediaKey) :
    asked desired iso bus slot = (desired.onBus bus).map (·.get? slot) := by
  cases iso <;> simp [asked, Option.filter, h]

/-- A drive that is mentioned is asked for, unless the installation image takes its slot. -/
theorem asked_of_get? {desired : Disks} {iso : Option IsoImage} {bus : Bus} {slot : Slot bus.kind}
    {drive : Drive} (hdrive : (desired.onBus bus).bind (·.get? slot) = some drive)
    (hmedia : (iso.isSome && desired.usesMediaSlot) = false) :
    asked desired iso bus slot = some (some drive) := by
  obtain ⟨drives, hdrives, hget⟩ := Option.bind_eq_some_iff.1 hdrive
  have hnone : iso.filter (fun _ ↦ slot.key bus.stem = mediaKey) = none := by
    cases iso with
    | none => rfl
    | some image =>
      refine Option.filter_eq_none_iff.2 fun _ _ ↦ ?_
      rw [decide_eq_true_eq]
      intro hkey
      -- the media slot is not mentioned beside an installation image
      have hbus : bus = .ide :=
        Decidable.byContradiction fun hne ↦ Bus.key_ne hne slot mediaSlot hkey
      subst hbus
      have hslot : slot = mediaSlot := Slot.key_inj hkey
      subst hslot
      have hide : desired.ide = some drives := hdrives
      have huses : desired.usesMediaSlot = true := by
        rw [usesMediaSlot, hide]
        exact congrArg Option.isSome hget
      rw [huses] at hmedia
      cases hmedia
  rw [asked, hnone, hdrives]
  exact congrArg some hget

/-- The drive that is in a slot. -/
def current (disks : Disks) (bus : Bus) (slot : Slot bus.kind) : Option Drive :=
  ((disks.onBus bus).getD .empty).get? slot

/-- What is done to a slot, given the drive that is in it and what is asked for. -/
def slotEffect (guest : Option GuestId) (bus : Bus) (key : String) (existing : Option Drive) :
    Option (Option Drive) → Effect
  | none => .keep
  | some (some drive) => ((Drive.placement bus guest).place key existing drive).effect key
  | some none => if existing.isSome then .delete else .keep

/-- **What a bus is planned for**: the drives of the bus as a whole, the installation image alone,
or nothing. -/
theorem planOn_cases (guest : Option GuestId) (before after : Disks) (iso : Option IsoImage)
    (bus : Bus) :
    (∃ drives, planOn guest before after iso bus =
        (Drive.placement bus guest).plan bus.stem (before.onBus bus) (some drives) ∧
          ∀ slot, after.asked iso bus slot = some (drives.get? slot)) ∨
      (∃ slot drive, planOn guest before after iso bus =
        (Drive.placement bus guest).place (slot.key bus.stem) (before.current bus slot) drive ∧
          after.asked iso bus slot = some (some drive) ∧
          ∀ other, other ≠ slot → after.asked iso bus other = none) ∨
      (planOn guest before after iso bus = [] ∧ ∀ slot, after.asked iso bus slot = none) := by
  have hbus (h : planOn guest before after iso bus = planBus guest before after bus)
      (hasked : ∀ slot, after.asked iso bus slot = (after.onBus bus).map (·.get? slot)) :
      (∃ drives, planOn guest before after iso bus =
        (Drive.placement bus guest).plan bus.stem (before.onBus bus) (some drives) ∧
          ∀ slot, after.asked iso bus slot = some (drives.get? slot)) ∨
      (planOn guest before after iso bus = [] ∧ ∀ slot, after.asked iso bus slot = none) := by
    cases hafter : after.onBus bus with
    | none => exact .inr ⟨by rw [h, planBus, hafter]; rfl, fun slot ↦ by rw [hasked, hafter]; rfl⟩
    | some drives =>
      exact .inl ⟨drives, by rw [h, planBus, hafter], fun slot ↦ by rw [hasked, hafter]; rfl⟩
  have hother (hne : bus ≠ .ide) (slot : Slot bus.kind) :
      after.asked iso bus slot = (after.onBus bus).map (·.get? slot) :=
    asked_of_ne (Bus.key_ne hne slot mediaSlot)
  cases bus with
  | sata => exact (hbus rfl (hother nofun)).imp_right .inr
  | scsi => exact (hbus rfl (hother nofun)).imp_right .inr
  | virtio => exact (hbus rfl (hother nofun)).imp_right .inr
  | ide =>
    cases iso with
    | none => exact (hbus (planIde_none _ _ _) fun slot ↦ rfl).imp_right .inr
    | some image =>
      -- the image is asked for in its slot, whatever else is
      have hmedia : after.asked (some image) .ide mediaSlot =
          some (some (.cdrom (.iso image))) := rfl
      have hslot (slot : Slot Bus.ide.kind) (h : slot ≠ mediaSlot) :
          after.asked (some image) .ide slot = after.ide.map (·.get? slot) :=
        asked_of_ne fun heq ↦ h (Slot.key_inj heq)
      cases hafter : after.ide with
      | none =>
        refine .inr (.inl ⟨mediaSlot, .cdrom (.iso image), ?_, hmedia, fun slot h ↦ ?_⟩)
        · simp only [planOn, planIde, hafter, current, onBus]
          cases before.ide <;> rfl
        · rw [hslot slot h, hafter, Option.map_none]
      | some drives =>
        refine .inl ⟨drives.insert mediaSlot (.cdrom (.iso image)), ?_, fun slot ↦ ?_⟩
        · simp only [planOn, planIde, hafter]
          rfl
        · by_cases h : slot = mediaSlot
          · subst h
            exact hmedia.trans (congrArg some (SortedMap.get?_insert_self _ _ _).symm)
          · rw [hslot slot h, hafter]
            exact congrArg some (SortedMap.get?_insert_of_ne _ _ h).symm

/-- **What the steps for a bus do to a slot.** -/
theorem effect_planOn (guest : Option GuestId) (before after : Disks) (iso : Option IsoImage)
    (bus : Bus) (slot : Slot bus.kind) :
    (planOn guest before after iso bus).effect (slot.key bus.stem) =
      slotEffect guest bus (slot.key bus.stem) (before.current bus slot)
        (after.asked iso bus slot) := by
  have hlocal := Drive.isLocal_placement bus guest
  rcases planOn_cases guest before after iso bus with
    ⟨drives, hplan, hasked⟩ | ⟨own, drive, hplan, hasked, hnone⟩ | ⟨hplan, hasked⟩
  · rw [hplan, hasked, Placement.effect_plan hlocal, current]
    cases drives.get? slot with
    | some drive => rfl
    | none =>
      cases ((before.onBus bus).getD .empty).get? slot with
      | none => rfl
      | some drive => simp [slotEffect, Drive.placement, Step.effect]
  · rw [hplan]
    by_cases h : slot = own
    · rw [h, hasked]
      rfl
    · rw [hnone slot h]
      exact Draft.effect_eq_keep (hlocal.place _ _ _) fun heq ↦ h (Slot.key_inj heq)
  · rw [hplan, hasked]
    rfl

theorem planOn_eq_nil {guest : Option GuestId} {before after : Disks} {iso : Option IsoImage}
    {bus : Bus}
    (hplace : ∀ slot drive, after.asked iso bus slot = some (some drive) →
      (Drive.placement bus guest).place (slot.key bus.stem) (before.current bus slot) drive = [])
    (hremove : ∀ slot, after.asked iso bus slot = some none → before.current bus slot = none) :
    planOn guest before after iso bus = [] := by
  rcases planOn_cases guest before after iso bus with
    ⟨drives, hplan, hasked⟩ | ⟨own, drive, hplan, hasked, -⟩ | ⟨hplan, -⟩
  · rw [hplan]
    refine Placement.plan_eq_nil (fun slot drive h ↦ hplace slot drive (by rw [hasked, h]))
      fun slot hsome ↦ ?_
    cases hdrive : drives.get? slot with
    | some drive => rfl
    | none =>
      have hnone := hremove slot (by rw [hasked, hdrive])
      rw [current] at hnone
      rw [hnone] at hsome
      cases hsome
  · rw [hplan, hplace own drive hasked]
  · exact hplan

theorem refusal?_place_of_planOn {guest : Option GuestId} {before after : Disks}
    {iso : Option IsoImage} {bus : Bus} (h : (planOn guest before after iso bus).refusal? = none)
    {slot : Slot bus.kind} {drive : Drive} (hdrive : after.asked iso bus slot = some (some drive)) :
    ((Drive.placement bus guest).place (slot.key bus.stem) (before.current bus slot)
      drive).refusal? = none := by
  rcases planOn_cases guest before after iso bus with
    ⟨drives, hplan, hasked⟩ | ⟨own, other, hplan, hasked, hnone⟩ | ⟨-, hasked⟩
  · rw [hplan] at h
    rw [hasked, Option.some.injEq] at hdrive
    exact Placement.refusal?_place_of_plan h hdrive
  · by_cases hslot : slot = own
    · subst hslot
      rw [hasked, Option.some.injEq, Option.some.injEq] at hdrive
      rwa [hplan, hdrive] at h
    · rw [hnone slot hslot] at hdrive
      cases hdrive
  · rw [hasked] at hdrive
    cases hdrive

end Disks

end GuestConfig
