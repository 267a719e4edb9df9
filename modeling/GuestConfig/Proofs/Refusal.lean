import GuestConfig.Proofs.Creation
import GuestConfig.Proofs.Settling.Cpu
import GuestConfig.Proofs.Settling.Drive
import GuestConfig.Proofs.Unchanged

/-!
# When an update is refused

Once the rules hold, there is one thing left that can stop a plan: a disk is to move to another
storage, and neither what is asked for nor what is there says which number its volume has.  The
latter is so if the disk is in a volume with a name of its own, which says nothing about numbers.

All drives of this kind stand in the way of a plan, but a plan is refused for one of them only.  It
is the first one in the order in which drives are planned: bus by bus, and slot by slot.

## What is here

* `Bus.rank` — the order in which buses are planned.
* `Disk.IsLost` — a disk whose volume nobody can name, and `Disk.revise_eq_none_iff`: no other disk
  is refused.
* `Configuration.LosesVolume`, `Configuration.IsFirstLoss` — a slot with such a disk, and the first
  such slot.
* `Placement.refusal?_plan_eq_some_iff` — a family is refused for the first of its devices.
* `Disks.refusal?_plan_eq_some_iff` — the drives are refused for the first loss.
* `Configuration.refusal?_planOnly_of_ne` — no other setting is refused.
* `planUpdate_refused_iff` — **a plan is refused for the first disk whose volume is lost.**
-/

set_option autoImplicit false

namespace GuestConfig

/-! ## Buses in order -/

namespace Bus

/-- The place of a bus in the order in which buses are planned. -/
def rank : Bus → Nat
  | ide => 0
  | sata => 1
  | scsi => 2
  | virtio => 3

instance : LT Bus := ⟨fun a b ↦ a.rank < b.rank⟩

theorem lt_iff {a b : Bus} : a < b ↔ a.rank < b.rank := Iff.rfl

instance : StrictOrder Bus where
  irrefl a := Nat.lt_irrefl a.rank
  trans h₁ h₂ := Nat.lt_trans (lt_iff.1 h₁) (lt_iff.1 h₂)
  connected {a b} h₁ h₂ := by
    have h : a.rank = b.rank := Nat.le_antisymm (Nat.not_lt.1 h₂) (Nat.not_lt.1 h₁)
    cases a <;> cases b <;> first | rfl | cases h

theorem sorted_all : all.Pairwise fun a b ↦ a < b := by
  simp [all, lt_iff, rank]

end Bus

/-! ## Disks whose volume cannot be named -/

namespace Disk

/-- A disk that is to move to another storage without anybody knowing its number: what is asked for
gives none, and what is there is in a volume with a name of its own. -/
structure IsLost (desired current : Disk) : Prop where
  id : desired.id = none
  volume : current.volume.isSome
  storage : desired.storage ≠ current.storage

/-- A stored disk has a number or a volume with a name of its own, never both. -/
theorem isSome_volume_iff_of_ofVolume {volume : String} {list : OptionList} {disk : Disk}
    (h : ofVolume volume list = .ok disk) : disk.volume.isSome ↔ disk.id = none := by
  obtain ⟨size, options, -, -, h⟩ := ofVolume_eq_ok_iff.1 h
  rcases h with ⟨v, format, -, -, rfl⟩ | ⟨storage, name, format, -, -, -, rfl⟩
  · exact iff_of_false Bool.false_ne_true (Option.some_ne_none _)
  · exact iff_of_true rfl rfl

variable {bus : Bus} {guest : GuestId} {desired current : Disk}

theorem isSome_attached? (guest : GuestId) (naming : VolumeNaming)
    (h : current.volume.isSome ↔ current.id = none) :
    (attached? (some guest) naming current).isSome := by
  unfold attached?
  cases hvolume : current.volume with
  | some volume => rfl
  | none =>
    have hid : current.id ≠ none := mt h.2 (by simp [hvolume])
    obtain ⟨id, hid⟩ := Option.ne_none_iff_exists'.1 hid
    rw [hid]
    rfl

/-- A volume can be named after its guest once its number is known. -/
theorem moved?_eq_none_iff {naming : VolumeNaming} :
    moved? (some guest) naming desired current = none ↔ desired.id = none ∧ current.id = none := by
  rw [← Option.or_eq_none_iff, moved?]
  cases desired.id.or current.id <;> simp

/-- **A disk is refused exactly if its volume is lost.** -/
theorem revise_eq_none_iff (h : current.volume.isSome ↔ current.id = none) :
    revise bus (some guest) desired current = none ↔ desired.IsLost current := by
  obtain ⟨before, hbefore⟩ := Option.isSome_iff_exists.1
    (isSome_attached? guest (namingOver desired current) h)
  rw [revise, Option.map_eq_none_iff]
  cases hmoves : moves desired current with
  | false =>
    have hsome : volumes? (some guest) desired current = some (before, before) :=
      volumes?_eq_some_iff.2 ⟨hbefore, by rw [hmoves]; rfl⟩
    rw [hsome]
    refine iff_of_false (Option.some_ne_none _) fun hlost ↦ ?_
    simp [moves, hlost.storage] at hmoves
  | true =>
    have hmoved : volumes? (some guest) desired current = none ↔
        moved? (some guest) (namingOver desired current) desired current = none := by
      cases hmoved : moved? (some guest) (namingOver desired current) desired current <;>
        simp [volumes?, hbefore, hmoves, hmoved]
    rw [hmoved, moved?_eq_none_iff]
    constructor
    · rintro ⟨hid, hcurrent⟩
      -- without a number nothing but the storage can make it move
      exact ⟨hid, h.2 hcurrent, by simpa [moves, hid] using hmoves⟩
    · intro hlost
      exact ⟨hlost.id, h.1 hlost.volume⟩

end Disk

/-! ## Drives -/

namespace Drive

variable {bus : Bus} {guest : Option GuestId} {key : String} {cause : RuleError}

/-- A drive is refused only if it is a disk that takes the place of another one. -/
theorem refusal?_replace_eq_some_iff {current drive : Drive} :
    (replace bus guest key current drive).refusal? = some cause ↔
      ∃ disk want, current = .disk disk ∧ drive = .disk want ∧
        Disk.revise bus guest want disk = none ∧ cause = .diskVolume key := by
  unfold replace
  split
  · split <;> simp [Draft.refusal?]
  · next want disk =>
    cases hrevise : Disk.revise bus guest want disk with
    | none => simp [Draft.refusal?, hrevise, eq_comm]
    | some update => cases update <;> simp [setIf, Draft.refusal?, hrevise]
  · split <;> simp [Draft.refusal?]
  · split <;> simp [Draft.refusal?]
  · next hother _ _ =>
    refine iff_of_false (fun h ↦ by cases h) ?_
    rintro ⟨disk, want, rfl, rfl, -⟩
    exact hother _ _ rfl rfl

/-- A drive is refused only if it is a disk whose volume is lost. -/
theorem refusal?_place_eq_some_iff {guest : GuestId} {existing : Option Drive} {drive : Drive}
    (h : ∀ disk, existing = some (.disk disk) → (disk.volume.isSome ↔ disk.id = none)) :
    ((placement bus (some guest)).place key existing drive).refusal? = some cause ↔
      ∃ disk want, existing = some (.disk disk) ∧ drive = .disk want ∧ want.IsLost disk ∧
        cause = .diskVolume key := by
  cases existing with
  | none => simp [placement, Draft.refusal?]
  | some current =>
    refine refusal?_replace_eq_some_iff.trans (exists_congr fun disk ↦ exists_congr fun want ↦ ?_)
    rw [Option.some.injEq]
    exact and_congr_right fun hdisk ↦ and_congr_right fun _ ↦
      and_congr_left' (Disk.revise_eq_none_iff (h disk (congrArg some hdisk)))

end Drive

/-! ## Families -/

/-- **A family is refused for the first of its devices**, in ascending order of their slots, if
removing devices is never refused. -/
theorem Placement.refusal?_plan_eq_some_iff {α : Type} {kind : SlotKind} {p : Placement α}
    {stem : String} (hremove : ∀ key device, (p.remove key device).refusal? = none)
    {current : Option (SlotMap kind α)} {desired : SlotMap kind α} {cause : RuleError} :
    (p.plan stem current (some desired)).refusal? = some cause ↔
      ∃ slot device, desired.get? slot = some device ∧
        (p.place (slot.key stem) ((current.getD .empty).get? slot) device).refusal? = some cause ∧
        ∀ slot' < slot, ∀ device', desired.get? slot' = some device' →
          (p.place (slot'.key stem) ((current.getD .empty).get? slot') device').refusal? =
            none := by
  have hothers : (p.removeOthers stem (current.getD .empty) desired).refusal? = none :=
    Draft.refusal?_flatMap_eq_none_iff.2 fun e _ ↦ by
      dsimp only
      split
      · rfl
      · exact hremove _ _
  rw [plan, Draft.refusal?_append, hothers, Option.or_none, placeAll, Draft.refusal?_flatMap,
    StrictOrder.findSome?_eq_some_iff desired.sorted]
  simp only [Prod.exists, Prod.forall, desired.mem_toList_iff]
  exact exists_congr fun slot ↦ exists_congr fun device ↦ and_congr_right fun _ ↦
    and_congr_right fun _ ↦ ⟨fun h slot' hlt device' hget ↦ h slot' device' hget hlt,
      fun h slot' device' hget hlt ↦ h slot' hlt device' hget⟩

/-! ## The drives of a guest -/

namespace Disks

/-- A slot with a disk whose volume is lost. -/
def LosesVolume (before after : Disks) (bus : Bus) (slot : Slot bus.kind) : Prop :=
  ∃ disk want, before.current bus slot = some (.disk disk) ∧
    (after.onBus bus).bind (·.get? slot) = some (.disk want) ∧ want.IsLost disk

/-- Drives as they are stored: every disk has a number or a volume with a name of its own. -/
def IsStored (disks : Disks) : Prop :=
  ∀ bus slot disk, disks.current bus slot = some (.disk disk) →
    (disk.volume.isSome ↔ disk.id = none)

theorem isStored_of_ofWire {w : Wire} {disks : Option Disks} (h : ofWire w = .ok disks) :
    (disks.getD { }).IsStored := by
  intro bus slot disk hdisk
  have hslots := (ofWire_eq_ok_iff.1 h).1 bus
  rw [current, SortedMap.get?_getD_empty] at hdisk
  obtain ⟨drives, hdrives, hget⟩ := Option.bind_eq_some_iff.1 hdisk
  rw [hdrives] at hslots
  obtain ⟨s, hs⟩ := Wire.exists_decode_of_slots hslots hget
  obtain ⟨volume, -, -, -, hvolume⟩ := Drive.ofOptions_eq_disk_iff.1 hs
  exact Disk.isSome_volume_iff_of_ofVolume hvolume

variable {guest : GuestId} {before after : Disks} {iso : Option IsoImage} {cause : RuleError}

/-- A bus is refused for the first of its drives that is. -/
theorem refusal?_planOn_eq_some_iff {bus : Bus} :
    (planOn (some guest) before after iso bus).refusal? = some cause ↔
      ∃ slot drive, after.asked iso bus slot = some (some drive) ∧
        ((Drive.placement bus (some guest)).place (slot.key bus.stem) (before.current bus slot)
          drive).refusal? = some cause ∧
        ∀ slot' < slot, ∀ drive', after.asked iso bus slot' = some (some drive') →
          ((Drive.placement bus (some guest)).place (slot'.key bus.stem) (before.current bus slot')
            drive').refusal? = none := by
  rcases planOn_cases (some guest) before after iso bus with
    ⟨drives, hplan, hasked⟩ | ⟨own, drive, hplan, hasked, hnone⟩ | ⟨hplan, hasked⟩
  · rw [hplan, Placement.refusal?_plan_eq_some_iff fun _ _ ↦ rfl]
    simp only [hasked, Option.some.injEq]
    rfl
  · rw [hplan]
    constructor
    · intro h
      refine ⟨own, drive, hasked, h, fun slot hlt _ hslot ↦ ?_⟩
      rw [hnone slot (StrictOrder.ne_of_lt hlt)] at hslot
      cases hslot
    · rintro ⟨slot, other, hother, h, -⟩
      by_cases hslot : slot = own
      · subst hslot
        rw [hasked, Option.some.injEq, Option.some.injEq] at hother
        exact hother ▸ h
      · rw [hnone slot hslot] at hother
        cases hother
  · rw [hplan]
    refine iff_of_false (fun h ↦ by cases h) ?_
    rintro ⟨slot, drive, hdrive, -⟩
    rw [hasked] at hdrive
    cases hdrive

section refusal

variable (guest) (hstored : before.IsStored) (hmedia : (iso.isSome && after.usesMediaSlot) = false)
include hstored hmedia

/-- What it takes to refuse a slot, if the installation image does not take it. -/
theorem refusal?_place_asked_iff {bus : Bus} {slot : Slot bus.kind} :
    (∃ drive, after.asked iso bus slot = some (some drive) ∧
        ((Drive.placement bus (some guest)).place (slot.key bus.stem) (before.current bus slot)
          drive).refusal? = some cause) ↔
      before.LosesVolume after bus slot ∧ cause = .diskVolume (slot.key bus.stem) := by
  constructor
  · rintro ⟨drive, hasked, hrefusal⟩
    obtain ⟨disk, want, hdisk, rfl, hlost, rfl⟩ :=
      (Drive.refusal?_place_eq_some_iff (hstored bus slot)).1 hrefusal
    rcases asked_cases hasked with ⟨image, -, hnone⟩ | hwant
    · cases hnone
    · rw [SortedMap.get?_getD_empty] at hwant
      exact ⟨⟨disk, want, hdisk, hwant, hlost⟩, rfl⟩
  · rintro ⟨⟨disk, want, hdisk, hwant, hlost⟩, rfl⟩
    exact ⟨.disk want, asked_of_get? hwant hmedia,
      (Drive.refusal?_place_eq_some_iff (hstored bus slot)).2
        ⟨disk, want, hdisk, rfl, hlost, rfl⟩⟩

/-- A bus is refused for its first slot whose volume is lost. -/
theorem refusal?_planOn_iff_losesVolume {bus : Bus} :
    (planOn (some guest) before after iso bus).refusal? = some cause ↔
      ∃ slot, before.LosesVolume after bus slot ∧
        (∀ slot' < slot, ¬before.LosesVolume after bus slot') ∧
        cause = .diskVolume (slot.key bus.stem) := by
  rw [refusal?_planOn_eq_some_iff]
  refine exists_congr fun slot ↦ ⟨?_, ?_⟩
  · rintro ⟨drive, hasked, hrefusal, hfirst⟩
    obtain ⟨hloses, hcause⟩ :=
      (refusal?_place_asked_iff guest hstored hmedia).1 ⟨drive, hasked, hrefusal⟩
    refine ⟨hloses, fun slot' hlt hloses' ↦ ?_, hcause⟩
    obtain ⟨drive', hasked', hrefusal'⟩ :=
      (refusal?_place_asked_iff guest hstored hmedia).2 ⟨hloses', rfl⟩
    rw [hfirst slot' hlt drive' hasked'] at hrefusal'
    cases hrefusal'
  · rintro ⟨hloses, hfirst, hcause⟩
    obtain ⟨drive, hasked, hrefusal⟩ :=
      (refusal?_place_asked_iff guest hstored hmedia).2 ⟨hloses, hcause⟩
    exact ⟨drive, hasked, hrefusal, fun slot' hlt drive' hasked' ↦
      Option.eq_none_iff_forall_ne_some.2 fun cause' hrefusal' ↦
        hfirst slot' hlt
          ((refusal?_place_asked_iff guest hstored hmedia).1 ⟨drive', hasked', hrefusal'⟩).1⟩

theorem refusal?_planOn_eq_none_iff {bus : Bus} :
    (planOn (some guest) before after iso bus).refusal? = none ↔
      ∀ slot, ¬before.LosesVolume after bus slot := by
  constructor
  · intro hnone slot hloses
    obtain ⟨drive, hasked, hrefusal⟩ :=
      (refusal?_place_asked_iff guest hstored hmedia).2 ⟨hloses, rfl⟩
    rw [refusal?_place_of_planOn hnone hasked] at hrefusal
    cases hrefusal
  · intro h
    refine Option.eq_none_iff_forall_ne_some.2 fun cause hrefusal ↦ ?_
    obtain ⟨slot, hloses, -⟩ := (refusal?_planOn_iff_losesVolume guest hstored hmedia).1 hrefusal
    exact h slot hloses

end refusal

section plan

variable {current desired : Option Disks} (guest) (hstored : (current.getD { }).IsStored)
  (hmedia : (iso.isSome && (desired.getD { }).usesMediaSlot) = false)
include hstored hmedia

/-- **The drives are refused for the first volume that is lost**, bus by bus and slot by slot. -/
theorem refusal?_plan_eq_some_iff :
    (plan (some guest) current desired iso).refusal? = some cause ↔
      ∃ bus slot, (current.getD { }).LosesVolume (desired.getD { }) bus slot ∧
        (∀ bus' < bus, ∀ slot', ¬(current.getD { }).LosesVolume (desired.getD { }) bus' slot') ∧
        (∀ slot' < slot, ¬(current.getD { }).LosesVolume (desired.getD { }) bus slot') ∧
        cause = .diskVolume (slot.key bus.stem) := by
  rw [plan_eq_flatMap, Draft.refusal?_flatMap, StrictOrder.findSome?_eq_some_iff Bus.sorted_all]
  constructor
  · rintro ⟨bus, -, hrefusal, hfirst⟩
    obtain ⟨slot, hloses, hslot, hcause⟩ :=
      (refusal?_planOn_iff_losesVolume guest hstored hmedia).1 hrefusal
    exact ⟨bus, slot, hloses, fun bus' hlt ↦ (refusal?_planOn_eq_none_iff guest hstored hmedia).1
      (hfirst bus' bus'.mem_all hlt), hslot, hcause⟩
  · rintro ⟨bus, slot, hloses, hbus, hslot, hcause⟩
    exact ⟨bus, bus.mem_all,
      (refusal?_planOn_iff_losesVolume guest hstored hmedia).2 ⟨slot, hloses, hslot, hcause⟩,
      fun bus' _ hlt ↦ (refusal?_planOn_eq_none_iff guest hstored hmedia).2 (hbus bus' hlt)⟩

theorem refusal?_plan_eq_none_iff :
    (plan (some guest) current desired iso).refusal? = none ↔
      ∀ bus slot, ¬(current.getD { }).LosesVolume (desired.getD { }) bus slot := by
  rw [plan_eq_flatMap, Draft.refusal?_flatMap_eq_none_iff]
  exact ⟨fun h bus ↦ (refusal?_planOn_eq_none_iff guest hstored hmedia).1 (h bus bus.mem_all),
    fun h bus _ ↦ (refusal?_planOn_eq_none_iff guest hstored hmedia).2 (h bus)⟩

end plan

end Disks

/-! ## The other settings -/

theorem Draft.refusal?_eq_none {draft : Draft} (h : ∀ step ∈ draft, step.key?.isSome) :
    draft.refusal? = none := by
  induction draft with
  | nil => rfl
  | cons step rest ih =>
    have hrest := ih fun step hstep ↦ h step (List.mem_cons_of_mem _ hstep)
    cases step with
    | refuse cause => cases h _ List.mem_cons_self
    | _ => exact hrest

theorem CloudInit.PlanStep.isSome_key? {base desired : CloudInit} {step : Step}
    (h : PlanStep base desired step) : step.key?.isSome := by
  cases h with
  | addressing _ _ hstep => exact hstep.isSome_key?
  | _ _ hstep => exact hstep.isSome_key?

theorem Memory.PlanStep.isSome_key? {base desired : Memory} {step : Step}
    (h : PlanStep base desired step) : step.key?.isSome := by
  cases h with
  | capacity | leftover => rfl
  | minimum _ hstep | shares _ hstep => exact hstep.isSome_key?

theorem NetworkInterface.PlanStep.isSome_key? {current desired : SlotMap .network NetworkInterface}
    {step : Step} (h : PlanStep current desired step) : step.key?.isSome := by
  cases h <;> rfl

/-- The CPU is not refused if its model has a proper name. -/
theorem Cpu.refusal?_plan {version : Version} {current : Option Cpu} {desired : Cpu}
    (h : ∀ name, desired.model = some name →
      ∃ proper, CpuModel.canonical name version = .ok proper) :
    (plan version current desired).refusal? = none := by
  have haffinity (before after : Option Affinity) :
      (planAffinity before after).refusal? = none := by
    unfold planAffinity
    repeat' split
    all_goals rfl
  have htext (base : Cpu) (model : Option String) (flags : Option CpuFlags) :
      (planModelText version base model flags).refusal? = none :=
    Draft.refusal?_eq_none fun _ hstep ↦ (isFor_of_mem_planModelText hstep).isSome_key?
  have hmodel (base : Cpu) : (planModel version base desired).refusal? = none := by
    unfold planModel
    split
    · split
      · rfl
      · exact htext _ _ _
    · next name hname =>
      obtain ⟨proper, hproper⟩ := h name hname
      rw [hproper]
      exact htext _ _ _
  simp only [plan, Draft.refusal?_append, Draft.refusal?_setting, haffinity, hmodel, Option.or_none]

namespace Configuration

variable {version : Version} {guest : GuestId} {current desired : Configuration}

/-- Most settings take steps about keys only. -/
theorem isSome_key?_of_mem_planOnly {guest : Option GuestId} {s : Setting} (hcpu : s ≠ .cpu)
    (hdisks : s ≠ .disks) (hpool : s ≠ .pool) {step : Step}
    (h : step ∈ planOnly version guest current desired s) : step.key?.isSome := by
  cases planStep_of_mem_planOnly h with
  | agent _ hstep | description _ hstep | name _ hstep | onBoot _ hstep | isProtected _ hstep
  | tags _ hstep | tpm _ hstep => exact hstep.isSome_key?
  | cloudInit _ hstep => exact hstep.isSome_key?
  | cpu => exact absurd rfl hcpu
  | drive => exact absurd rfl hdisks
  | memory _ hstep => exact hstep.isSome_key?
  | network _ hstep => exact hstep.isSome_key?
  | pciDevice _ _ hstep | serial _ _ hstep | usb _ _ hstep => exact hstep.isSome_key?
  | pool | ignorePool => exact absurd rfl hpool

/-- **No other setting than the drives is refused** once the rules hold. -/
theorem refusal?_planOnly_of_ne (h : desired.validate version (some current) = .ok ())
    {s : Setting} (hs : s ≠ .disks) :
    (planOnly version (some guest) current desired s).refusal? = none := by
  by_cases hcpu : s = .cpu
  · rw [hcpu, planOnly_eq]
    dsimp only
    cases hsome : desired.cpu with
    | none => rfl
    | some cpu =>
      exact Cpu.refusal?_plan fun _ hname ↦
        Cpu.exists_canonical_of_validate ((validate_eq_ok_iff.1 h).cpu cpu hsome) hname
  by_cases hpool : s = .pool
  · rw [hpool, planOnly_eq]
    exact refusal?_planPool (some guest) desired.pool
  exact Draft.refusal?_eq_none fun _ hstep ↦ isSome_key?_of_mem_planOnly hcpu hs hpool hstep

/-- Once the rules hold, a plan is refused as its drives are. -/
theorem refusal?_plan (h : desired.validate version (some current) = .ok ()) :
    (desired.plan version (some guest) (some current)).refusal? =
      (Disks.plan (some guest) current.disks desired.disks desired.iso).refusal? := by
  rw [plan_eq_flatMap, Draft.refusal?_flatMap_of_ne Setting.disks.mem_all fun s hs ↦
    refusal?_planOnly_of_ne h hs, planOnly_eq]

/-! ## Losses -/

/-- A slot with a disk that is to move to another storage, while neither what is asked for nor what
is there says which number it has. -/
def LosesVolume (current desired : Configuration) : (bus : Bus) → Slot bus.kind → Prop :=
  (current.disks.getD { }).LosesVolume (desired.disks.getD { })

/-- The first such slot, bus by bus and in ascending order. -/
structure IsFirstLoss (current desired : Configuration) (bus : Bus) (slot : Slot bus.kind) :
    Prop where
  /-- It is such a slot. -/
  loses : LosesVolume current desired bus slot
  /-- There is none on an earlier bus. -/
  earlierBus : ∀ bus' < bus, ∀ slot', ¬LosesVolume current desired bus' slot'
  /-- There is none before it on the same bus. -/
  earlierSlot : ∀ slot' < slot, ¬LosesVolume current desired bus slot'

section refusals

variable {version : Version} {guest : GuestId} {w : Wire} {current : Configuration}
  (hcurrent : ofWire w = .ok current)
include hcurrent

/-- **A plan is refused for the first loss** once the rules hold. -/
theorem refusal?_plan_eq_some_iff {desired : Configuration}
    (hvalid : desired.validate version (some current) = .ok ()) {cause : RuleError} :
    (desired.plan version (some guest) (some current)).refusal? = some cause ↔
      ∃ bus slot, IsFirstLoss current desired bus slot ∧
        cause = .diskVolume (slot.key bus.stem) := by
  rw [refusal?_plan hvalid, Disks.refusal?_plan_eq_some_iff guest
    (Disks.isStored_of_ofWire (ofWire_eq_ok_iff.1 hcurrent).disks)
    (usesMediaSlot_of_validate hvalid)]
  refine exists_congr fun bus ↦ exists_congr fun slot ↦ ⟨?_, ?_⟩
  · rintro ⟨hloses, hbus, hslot, hcause⟩
    exact ⟨⟨hloses, hbus, hslot⟩, hcause⟩
  · rintro ⟨⟨hloses, hbus, hslot⟩, hcause⟩
    exact ⟨hloses, hbus, hslot, hcause⟩

theorem refusal?_plan_eq_none_iff {desired : Configuration}
    (hvalid : desired.validate version (some current) = .ok ()) :
    (desired.plan version (some guest) (some current)).refusal? = none ↔
      ∀ bus slot, ¬LosesVolume current desired bus slot := by
  rw [refusal?_plan hvalid]
  exact Disks.refusal?_plan_eq_none_iff guest
    (Disks.isStored_of_ofWire (ofWire_eq_ok_iff.1 hcurrent).disks)
    (usesMediaSlot_of_validate hvalid)

end refusals

/-- A creation is not refused once the rules hold: a new guest has no volume to lose. -/
theorem refusal?_plan_creation_eq_none {version : Version} {desired : Configuration}
    (hvalid : desired.validate version none = .ok ()) :
    (desired.plan version none none).refusal? = none := by
  have hempty : desired.validate version (some { }) = .ok () := hvalid
  rw [refusal?_plan_creation ⟨100, by decide, by decide⟩,
    refusal?_plan_eq_none_iff (ofWire_eq_ok_iff.2 holds_empty) hempty]
  rintro bus slot ⟨disk, want, hdisk, -⟩
  cases bus <;> cases hdisk

end Configuration

/-! ## Updates and creations -/

/-- **Once the rules hold, an update is refused exactly if a volume is lost**, for the first one
that is, and a creation is never refused. -/
theorem planUpdate_refused_iff {version : Version} {guest : GuestId} {w : Wire}
    {current desired : Configuration} (hcurrent : Configuration.ofWire w = .ok current)
    (hvalid : desired.validate version (some current) = .ok ()) :
    ((∃ cause, (planUpdate version guest current desired).result = .error cause) ↔
        ∃ (bus : Bus) (slot : Slot bus.kind), current.LosesVolume desired bus slot) ∧
      (∀ cause, (planUpdate version guest current desired).result = .error cause ↔
        ∃ (bus : Bus) (slot : Slot bus.kind), current.IsFirstLoss desired bus slot ∧
          cause = .diskVolume (slot.key bus.stem)) ∧
      ∀ created : Configuration, created.validate version none = .ok () →
        ∃ change, (planCreation version created).result = .ok change := by
  have herror (cause : RuleError) :
      (planUpdate version guest current desired).result = .error cause ↔
        (desired.plan version (some guest) (some current)).refusal? = some cause := by
    rw [planUpdate_eq_error_iff, hvalid]
    simp
  simp only [herror]
  refine ⟨?_, fun cause ↦ Configuration.refusal?_plan_eq_some_iff hcurrent hvalid,
    fun created hcreated ↦ ⟨_, planCreation_eq_ok_iff.2
      ⟨hcreated, Configuration.refusal?_plan_creation_eq_none hcreated, rfl⟩⟩⟩
  rw [← Option.isSome_iff_exists, Option.isSome_iff_ne_none, Ne,
    Configuration.refusal?_plan_eq_none_iff hcurrent hvalid]
  simp only [not_forall, not_not]

/-- A guest with two disks in volumes with names of their own. -/
def foreignDisks : Wire :=
  .ofList [("sata1", .text "backup:archive.img,size=8G"), ("scsi2", .text "backup:image,size=8G")]

/-- What is asked for to move both disks to another storage. -/
def movedDisks : Configuration where
  disks := some {
    sata := some (.ofList [(⟨1, by decide⟩, .disk { storage := "local-lvm", size := 8388608 })])
    scsi := some (.ofList [(⟨2, by decide⟩, .disk { storage := "local-lvm", size := 8388608 })]) }

/-- The disk on the SATA bus decides. -/
theorem planUpdate_refused_of_moved :
    ∃ (current : Configuration) (bus : Bus) (slot : Slot bus.kind),
      Configuration.ofWire foreignDisks = .ok current ∧
      movedDisks.validate ⟨8, 1, 0⟩ (some current) = .ok () ∧
      (planUpdate ⟨8, 1, 0⟩ ⟨100, by decide, by decide⟩ current movedDisks).result =
        .error (.diskVolume "sata1") ∧
      current.IsFirstLoss movedDisks bus slot ∧
      RuleError.diskVolume "sata1" = .diskVolume (slot.key bus.stem) := by
  have h : ((Configuration.ofWire foreignDisks).toOption.bind fun current ↦
      (movedDisks.validate ⟨8, 1, 0⟩ (some current)).toOption.bind fun _ ↦
        (movedDisks.plan ⟨8, 1, 0⟩ (some ⟨100, by decide, by decide⟩) (some current)).refusal?) =
      some (.diskVolume "sata1") := by decide +kernel
  obtain ⟨current, hcurrent, h⟩ := exists_of_toOption_bind h
  obtain ⟨⟨⟩, hvalid, hrefusal⟩ := exists_of_toOption_bind h
  have hresult := planUpdate_eq_error_iff.2 (.inr ⟨hvalid, hrefusal⟩)
  obtain ⟨bus, slot, hfirst, hcause⟩ :=
    ((planUpdate_refused_iff hcurrent hvalid).2.1 _).1 hresult
  exact ⟨current, bus, slot, hcurrent, hvalid, hresult, hfirst, hcause⟩

end GuestConfig
