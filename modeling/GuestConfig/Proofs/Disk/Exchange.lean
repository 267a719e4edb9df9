import GuestConfig.Planner
import GuestConfig.Proofs.Disk.Plan

/-!
# Drives that are asked for in other words

An update looks at a drive that is asked for in three ways: it checks it, it counts those with
cloud-init settings, and it puts it into its slot.  If another drive looks the same in all three,
asking for the one or for the other is the same update, with the same result and the same log.

This is how one shows that a field of a drive is not heeded, or only under some condition on the
drive that is in the slot already.

## What is here

* `Disks.exchange`, `Configuration.exchangeDrive` — another drive in the place of one that is asked
  for.
* `Placement.plan_insert` — a device that is placed alike.
* `Disks.validate_exchange`, `Disks.plan_exchange` — the rules and the plan for all drives.
* `planUpdate_exchangeDrive` — **a drive that is checked and placed alike is planned alike.**
-/

set_option autoImplicit false

namespace GuestConfig

/-! ## Families -/

namespace Placement

variable {α : Type} {kind : SlotKind} (p : Placement α) (stem : String)

theorem placeAll_eq_flatMap (current desired : SlotMap kind α) :
    p.placeAll stem current desired =
      (desired.mapValues fun slot device ↦
        p.place (slot.key stem) (current.get? slot) device).toList.flatMap (·.2) := by
  simp only [placeAll, SortedMap.mapValues, List.flatMap_map]

/-- **A device that is placed alike is planned alike.** -/
theorem plan_insert {current : Option (SlotMap kind α)} {desired : SlotMap kind α}
    {slot : Slot kind} {device device' : α} (h : desired.get? slot = some device)
    (hplace : p.place (slot.key stem) ((current.getD .empty).get? slot) device' =
      p.place (slot.key stem) ((current.getD .empty).get? slot) device) :
    p.plan stem current (some (desired.insert slot device')) =
      p.plan stem current (some desired) := by
  have hremove : p.removeOthers stem (current.getD .empty) (desired.insert slot device') =
      p.removeOthers stem (current.getD .empty) desired := by
    simp only [removeOthers, SortedMap.contains_insert_of_get? h]
  simp only [plan, placeAll_eq_flatMap, hremove]
  rw [SortedMap.mapValues_insert h hplace]

end Placement

/-! ## Rules -/

theorem requireEach_eq_map {α : Type} (items : List α) (rules : α → Except RuleError Unit) :
    requireEach items rules = requireEach (items.map rules) id := by
  induction items with
  | nil => rfl
  | cons a rest ih => rw [List.map_cons, requireEach, requireEach, ih]; rfl

/-! ## Drives -/

namespace Disks

/-- The drives with another one in a slot, if its bus is mentioned. -/
def exchange (disks : Disks) : (bus : Bus) → Slot bus.kind → Drive → Disks
  | .ide, slot, drive => { disks with ide := disks.ide.map (·.insert slot drive) }
  | .sata, slot, drive => { disks with sata := disks.sata.map (·.insert slot drive) }
  | .scsi, slot, drive => { disks with scsi := disks.scsi.map (·.insert slot drive) }
  | .virtio, slot, drive => { disks with virtio := disks.virtio.map (·.insert slot drive) }

theorem onBus_exchange (disks : Disks) (bus : Bus) (slot : Slot bus.kind) (drive : Drive) :
    (disks.exchange bus slot drive).onBus bus = (disks.onBus bus).map (·.insert slot drive) := by
  cases bus <;> rfl

theorem onBus_exchange_of_ne (disks : Disks) {bus other : Bus} (h : other ≠ bus)
    (slot : Slot bus.kind) (drive : Drive) :
    (disks.exchange bus slot drive).onBus other = disks.onBus other := by
  cases bus <;> cases other <;> first | rfl | exact absurd rfl h

section exchange

variable {disks : Disks} {bus : Bus} {slot : Slot bus.kind} {drive drive' : Drive}

/-- All drives, as far as something is to be seen of them. -/
theorem map_drives_exchange (h : (disks.onBus bus).bind (·.get? slot) = some drive) {β : Type}
    (view : Bus × String × Drive → β)
    (hview : view (bus, slot.key bus.stem, drive') = view (bus, slot.key bus.stem, drive)) :
    (disks.exchange bus slot drive').drives.map view = disks.drives.map view := by
  have hdrivesOn (disks : Disks) (bus : Bus) : (disks.drivesOn bus).map view =
      (((disks.onBus bus).getD .empty).mapValues fun slot drive ↦
        view (bus, slot.key bus.stem, drive)).toList.map (·.2) := by
    simp [drivesOn, SortedMap.mapValues, Function.comp_def]
  have hall (other : Bus) : ((disks.exchange bus slot drive').drivesOn other).map view =
      (disks.drivesOn other).map view := by
    rw [hdrivesOn, hdrivesOn]
    by_cases hother : other = bus
    · subst hother
      obtain ⟨m, hm, hget⟩ := Option.bind_eq_some_iff.1 h
      rw [onBus_exchange, hm, Option.map_some, Option.getD_some, Option.getD_some]
      rw [SortedMap.mapValues_insert hget hview]
    · rw [onBus_exchange_of_ne _ hother]
  simp only [drives, List.map_flatMap, hall]

/-- The slot for installation media is as much in use as before. -/
theorem usesMediaSlot_exchange (h : (disks.onBus bus).bind (·.get? slot) = some drive) :
    (disks.exchange bus slot drive').usesMediaSlot = disks.usesMediaSlot := by
  cases bus with
  | ide =>
    obtain ⟨m, hm, hget⟩ := Option.bind_eq_some_iff.1 h
    have hide : disks.ide = some m := hm
    rw [usesMediaSlot, usesMediaSlot, hide]
    change (disks.ide.map (·.insert slot drive')).any (·.contains mediaSlot) = _
    rw [hide]
    exact SortedMap.contains_insert_of_get? hget drive' mediaSlot
  | _ => rfl

/-- The rules see the result of checking each drive, and which drives have cloud-init settings. -/
theorem validate_eq (disks : Disks) :
    disks.validate = (do
      requireEach (disks.drives.map fun e ↦ e.2.2.validate e.1 e.2.1) id
      require ((disks.drives.map fun e ↦ e.2.2.isCloudInit).countP id ≤ 1)
        .cloudInitDriveRepeated) := by
  rw [← requireEach_eq_map, List.countP_map, List.countP_eq_length_filter]
  rfl

/-- **A drive that is checked alike leaves the drives as much in order as before.** -/
theorem validate_exchange (h : (disks.onBus bus).bind (·.get? slot) = some drive)
    (hvalid : drive'.validate bus (slot.key bus.stem) = drive.validate bus (slot.key bus.stem))
    (hcloudInit : drive'.isCloudInit = drive.isCloudInit) :
    (disks.exchange bus slot drive').validate = disks.validate := by
  have hrules := map_drives_exchange h (fun e ↦ e.2.2.validate e.1 e.2.1) hvalid
  have hcount := map_drives_exchange h (fun e ↦ e.2.2.isCloudInit) hcloudInit
  rw [validate_eq, validate_eq, hrules, hcount]

theorem planOn_congr {after after' : Disks} (guest : Option GuestId) (before : Disks)
    (iso : Option IsoImage) (h : after'.onBus bus = after.onBus bus) :
    planOn guest before after' iso bus = planOn guest before after iso bus := by
  cases bus with
  | ide =>
    have hide : after'.ide = after.ide := h
    rw [planOn, planOn, hide]
  | _ => simp only [planOn, planBus, h]

/-- A drive of the IDE bus that is placed alike is planned alike, also beside an installation
image. -/
theorem planIde_insert {guest : Option GuestId} {current : Option (SlotMap .ide Drive)}
    {drives : SlotMap .ide Drive} {iso : Option IsoImage} {slot : Slot .ide} {drive drive' : Drive}
    (h : drives.get? slot = some drive)
    (hplace : (Drive.placement .ide guest).place (slot.key Bus.ide.stem)
        ((current.getD .empty).get? slot) drive' =
      (Drive.placement .ide guest).place (slot.key Bus.ide.stem)
        ((current.getD .empty).get? slot) drive) :
    planIde guest current (some (drives.insert slot drive')) iso =
      planIde guest current (some drives) iso := by
  cases iso with
  | none => exact Placement.plan_insert _ _ h hplace
  | some image =>
    simp only [planIde]
    -- the image wins its slot, and in any other one the drives are placed alike
    by_cases hslot : slot = mediaSlot
    · rw [hslot, SortedMap.insert_insert]
    · rw [SortedMap.insert_comm _ hslot]
      exact Placement.plan_insert _ _ ((SortedMap.get?_insert_of_ne _ _ hslot).trans h) hplace

/-- **A drive that is placed alike is planned alike.** -/
theorem plan_exchange {guest : Option GuestId} {current : Option Disks} {iso : Option IsoImage}
    (h : (disks.onBus bus).bind (·.get? slot) = some drive)
    (hplace : (Drive.placement bus guest).place (slot.key bus.stem)
        ((current.getD { }).current bus slot) drive' =
      (Drive.placement bus guest).place (slot.key bus.stem)
        ((current.getD { }).current bus slot) drive) :
    plan guest current (some (disks.exchange bus slot drive')) iso =
      plan guest current (some disks) iso := by
  obtain ⟨m, hm, hget⟩ := Option.bind_eq_some_iff.1 h
  have hbus : (Drive.placement bus guest).plan bus.stem ((current.getD { }).onBus bus)
      (some (m.insert slot drive')) =
      (Drive.placement bus guest).plan bus.stem ((current.getD { }).onBus bus) (some m) :=
    Placement.plan_insert _ _ hget hplace
  have hall (other : Bus) :
      planOn guest (current.getD { }) (disks.exchange bus slot drive') iso other =
        planOn guest (current.getD { }) disks iso other := by
    by_cases hother : other = bus
    · subst hother
      cases other with
      | ide =>
        have hide : disks.ide = some m := hm
        change planIde guest _ (disks.ide.map (·.insert slot drive')) iso =
          planIde guest _ disks.ide iso
        rw [hide]
        exact planIde_insert hget hplace
      | _ =>
        simp only [planOn, planBus, onBus_exchange, hm, Option.map_some]
        exact hbus
    · exact planOn_congr _ _ _ (onBus_exchange_of_ne _ hother _ _)
  rw [plan_eq_flatMap, plan_eq_flatMap, Option.getD_some, Option.getD_some, funext hall]

end exchange

end Disks

/-! ## Updates -/

/-- A configuration with another drive in a slot, if its bus is mentioned. -/
def Configuration.exchangeDrive (c : Configuration) (bus : Bus) (slot : Slot bus.kind)
    (drive : Drive) : Configuration :=
  { c with disks := c.disks.map (·.exchange bus slot drive) }

/-- **A drive that is checked and placed alike is planned alike.** -/
theorem planUpdate_exchangeDrive {version : Version} {guest : GuestId}
    {current desired : Configuration} {bus : Bus} {slot : Slot bus.kind} {drive drive' : Drive}
    (h : ((desired.disks.getD { }).onBus bus).bind (·.get? slot) = some drive)
    (hvalid : drive'.validate bus (slot.key bus.stem) = drive.validate bus (slot.key bus.stem))
    (hcloudInit : drive'.isCloudInit = drive.isCloudInit)
    (hplace : (Drive.placement bus (some guest)).place (slot.key bus.stem)
        ((current.disks.getD { }).current bus slot) drive' =
      (Drive.placement bus (some guest)).place (slot.key bus.stem)
        ((current.disks.getD { }).current bus slot) drive) :
    planUpdate version guest current (desired.exchangeDrive bus slot drive') =
      planUpdate version guest current desired := by
  cases hdisks : desired.disks with
  | none =>
    rw [hdisks] at h
    cases bus <;> cases h
  | some disks =>
    have h : (disks.onBus bus).bind (·.get? slot) = some drive := by simpa [hdisks] using h
    have hdrives : (desired.exchangeDrive bus slot drive').validateDrives =
        desired.validateDrives := by
      simp only [Configuration.validateDrives, Configuration.exchangeDrive, hdisks, Option.map_some,
        requireOf_some, Disks.validate_exchange h hvalid hcloudInit,
        Disks.usesMediaSlot_exchange h]
    have hrules : (desired.exchangeDrive bus slot drive').validate version (some current) =
        desired.validate version (some current) := by
      rw [Configuration.validate, Configuration.validate, hdrives]
      rfl
    have hplan : (desired.exchangeDrive bus slot drive').plan version (some guest)
        (some current) = desired.plan version (some guest) (some current) := by
      simp only [Configuration.plan, Configuration.exchangeDrive, hdisks, Option.map_some,
        Option.getD_some, Disks.plan_exchange h hplace]
    rw [planUpdate, planUpdate, hrules, hplan]

end GuestConfig
