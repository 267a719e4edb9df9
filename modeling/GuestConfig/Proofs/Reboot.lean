import GuestConfig.Proofs.Disk.Attachment
import GuestConfig.Proofs.Plan.Distinct
import GuestConfig.Proofs.Plan.Parts

/-!
# When a reboot is needed

A running guest sees some changes at once and others only when it boots again.  Which is which is a
matter of policy: the policy is a table of keys, with conditions on what was there and what is asked
for, and a plan asks for a reboot exactly if something in the table happens.

## What is here

* `Drive.IsLiveChange`, `Drive.NeedsReboot` — the policy for drives.
* `NetworkInterface.DiffersInCard` — the policy for network interfaces.
* `Configuration.RebootsFor` — **the policy**: what setting a key to a value, or removing it, needs.
* `Drive.reboots_iff_of_mem_place`, `Disks.PlanStep.reboots_iff`,
  `NetworkInterface.PlanStep.reboots_iff` — the steps for devices keep to it.
* `Configuration.reboots_iff_of_mem_plan` — every step keeps to the policy.
* `planUpdate_reboot_iff` — **a reboot is needed exactly if the policy says so.**
-/

set_option autoImplicit false

namespace GuestConfig

/-! ## The policy -/

/-- Options that are the same but for what a running guest does not notice: taking part in backups
and in replication, and the limits of the throughput. -/
def DriveOptions.EqualsButLive (after before : DriveOptions) : Prop :=
  { after with
    backup := before.backup
    bandwidth := before.bandwidth
    replicate := before.replicate } = before

namespace Drive

/-- A change of a drive that a running guest sees. -/
inductive IsLiveChange : (before after : Drive) → Prop
  /-- Media are swapped. -/
  | media (before after : CdRom) : IsLiveChange (.cdrom before) (.cdrom after)
  /-- A disk stays where it is. -/
  | disk {before after : Disk} (hstorage : after.storage = before.storage)
      (hid : ∀ id, after.id = some id → before.id = some id)
      (hoptions : after.options.EqualsButLive before.options) :
      IsLiveChange (.disk before) (.disk after)
  /-- A block device stays the same. -/
  | passthrough {before after : Passthrough} (hpath : after.path = before.path)
      (hoptions : after.options.EqualsButLive before.options) :
      IsLiveChange (.passthrough before) (.passthrough after)

/-- Whether a reboot is needed when a slot holds one thing and then another.  On the buses without
hot-plugging everything but swapping media needs one; on the others only drives that are replaced
do, unless a running guest sees the change. -/
def NeedsReboot (before after : Option Drive) : Bus → Prop
  | .ide | .sata => ¬∃ old new, before = some (.cdrom old) ∧ after = some (.cdrom new)
  | .scsi | .virtio => ∃ old new, before = some old ∧ after = some new ∧ ¬IsLiveChange old new

end Drive

/-- An interface that differs from another one in what a running guest cannot be told: the model of
the card, the MTU or the number of queues. -/
def NetworkInterface.DiffersInCard (after before : NetworkInterface) : Prop :=
  after.model.getD .virtio ≠ before.model.getD .virtio ∨ after.mtu ≠ before.mtu ∨
    after.queues.getD 0 ≠ before.queues.getD 0

/-- **The policy**: whether a key that is set to a value, or removed, needs a reboot. -/
inductive Configuration.RebootsFor (current desired : Configuration) :
    (key : String) → (new : Option Value) → Prop
  | agent (v : Value) : RebootsFor current desired Agent.key (some v)
  | cores (v : Value) : RebootsFor current desired Cpu.coresKey (some v)
  | sockets (v : Value) : RebootsFor current desired Cpu.socketsKey (some v)
  | numa (v : Value) : RebootsFor current desired Cpu.numaKey (some v)
  | cpuModel (new : Option Value) : RebootsFor current desired Cpu.modelKey new
  /-- Memory is taken away. -/
  | capacity {before after : UInt32} (hbefore : current.memory.bind (·.capacity) = some before)
      (h : after < before) : RebootsFor current desired Memory.capacityKey (some (.ofWord after))
  | pciDevice (slot : Slot .pci) (new : Option Value) :
      RebootsFor current desired (slot.key PciDevice.stem) new
  | serial (slot : Slot .serial) (new : Option Value) :
      RebootsFor current desired (slot.key SerialPort.stem) new
  | tpm (new : Option Value) : RebootsFor current desired Tpm.key new
  /-- An interface is replaced by another one. -/
  | network {slot : Slot .network} {before after : NetworkInterface}
      (hbefore : (current.networks.getD .empty).get? slot = some before)
      (hafter : (desired.networks.getD .empty).get? slot = some after)
      (h : (after.laidOver before).DiffersInCard before) (v : Value) :
      RebootsFor current desired (slot.key NetworkInterface.stem) (some v)
  /-- A slot for a drive is filled, emptied or changed. -/
  | drive {bus : Bus} {slot : Slot bus.kind} {after : Option Drive}
      (hafter : (desired.disks.getD { }).asked desired.iso bus slot = some after)
      (h : Drive.NeedsReboot ((current.disks.getD { }).current bus slot) after bus)
      (new : Option Value) : RebootsFor current desired (slot.key bus.stem) new

/-! ## Drives -/

theorem DriveOptions.differOnlyLive_iff {after before : DriveOptions} :
    after.differOnlyLive before = true ↔ after.EqualsButLive before := by
  cases after
  cases before
  simp [differOnlyLive, settled, EqualsButLive]

namespace Drive

variable {bus : Bus} {guest : Option GuestId} {key : String} {step : Step}

theorem isLiveChange_disk_iff {before after : Disk} :
    IsLiveChange (.disk before) (.disk after) ↔
      Disk.moves after before = false ∧ after.options.differOnlyLive before.options = true := by
  rw [Disk.moves_eq_false_iff, DriveOptions.differOnlyLive_iff]
  constructor
  · intro h
    cases h with
    | disk hstorage hid hoptions => exact ⟨⟨hstorage, hid⟩, hoptions⟩
  · rintro ⟨⟨hstorage, hid⟩, hoptions⟩
    exact .disk hstorage hid hoptions

theorem isLiveChange_passthrough_iff {before after : Passthrough} :
    IsLiveChange (.passthrough before) (.passthrough after) ↔
      after.path = before.path ∧ after.options.differOnlyLive before.options = true := by
  rw [DriveOptions.differOnlyLive_iff]
  constructor
  · intro h
    cases h with
    | passthrough hpath hoptions => exact ⟨hpath, hoptions⟩
  · rintro ⟨hpath, hoptions⟩
    exact .passthrough hpath hoptions

/-- Revising a disk needs a reboot unless a running guest sees the change. -/
theorem reboots_iff_of_mem_revise {after before : Disk} {update : Option (String × Bool)}
    (hupdate : Disk.revise bus guest after before = some update) (h : step ∈ setIf key update) :
    step.reboots = true ↔ bus.canHotplug = false ∨ ¬IsLiveChange (.disk before) (.disk after) := by
  obtain ⟨volumes, -, htext⟩ := Option.map_eq_some_iff.1 hupdate
  dsimp only at htext
  split at htext
  · rw [← htext] at h
    cases h
  · rw [← htext] at h
    obtain rfl := List.mem_singleton.1 h
    rw [isLiveChange_disk_iff, Step.reboots]
    cases bus.canHotplug <;> cases Disk.moves after before <;> simp

/-- Replacing a drive needs a reboot unless media are swapped, or the bus has hot-plugging and a
running guest sees the change. -/
theorem reboots_iff_of_mem_replace {current desired : Drive}
    (h : step ∈ replace bus guest key current desired) (hkey : step.key?.isSome) :
    step.reboots = true ↔
      (¬∃ old new, current = .cdrom old ∧ desired = .cdrom new) ∧
        (bus.canHotplug = false ∨ ¬IsLiveChange current desired) := by
  unfold replace at h
  split at h
  · next after before =>
    split at h
    · cases h
    · obtain rfl := List.mem_singleton.1 h
      exact iff_of_false Bool.false_ne_true fun hnot ↦ hnot.1 ⟨before, after, rfl, rfl⟩
  · next after before =>
    split at h
    · next update hupdate => simp [reboots_iff_of_mem_revise hupdate h]
    · obtain rfl := List.mem_singleton.1 h
      cases hkey
  · next after before =>
    split at h
    · cases h
    · obtain rfl := List.mem_singleton.1 h
      rw [isLiveChange_passthrough_iff, Step.reboots]
      by_cases hpath : after.path = before.path <;> simp [hpath]
  · split at h
    · cases h
    · obtain rfl := List.mem_singleton.1 h
      refine iff_of_true rfl ⟨?_, .inr fun hlive ↦ by cases hlive⟩
      rintro ⟨old, new, hnot, -⟩
      cases hnot
  · next hcdrom hdisk hpassthrough _ =>
    obtain rfl := List.mem_singleton.1 h
    refine iff_of_true rfl ⟨?_, .inr fun hlive ↦ ?_⟩
    · rintro ⟨old, new, rfl, rfl⟩
      exact hcdrom new old rfl rfl
    · cases hlive with
      | media old new => exact hcdrom _ _ rfl rfl
      | disk => exact hdisk _ _ rfl rfl
      | passthrough => exact hpassthrough _ _ rfl rfl

/-- **Placing a drive keeps to the policy.** -/
theorem reboots_iff_of_mem_place {existing : Option Drive} {drive : Drive}
    (h : step ∈ (placement bus guest).place key existing drive) (hkey : step.key?.isSome) :
    step.reboots = true ↔ NeedsReboot existing (some drive) bus := by
  cases existing with
  | none =>
    obtain rfl := List.mem_singleton.1 h
    cases bus <;> simp [Step.reboots, NeedsReboot, Bus.canHotplug]
  | some current =>
    rw [reboots_iff_of_mem_replace h hkey]
    cases bus with
    | ide | sata => simp [NeedsReboot, Bus.canHotplug]
    | scsi | virtio =>
      simp only [NeedsReboot, Bus.canHotplug, Option.some.injEq, exists_and_left, exists_eq_left',
        Bool.true_eq_false, false_or, and_iff_right_iff_imp]
      rintro hlive ⟨old, rfl, new, rfl⟩
      exact hlive (.media old new)

end Drive

/-- **The steps for a slot keep to the policy.** -/
theorem Disks.PlanStep.reboots_iff {guest : Option GuestId} {before after : Disks}
    {iso : Option IsoImage} {bus : Bus} {step : Step} (h : PlanStep guest before after iso bus step)
    {slot : Slot bus.kind} (hkey : step.key? = some (slot.key bus.stem)) {drive : Option Drive}
    (hasked : after.asked iso bus slot = some drive) :
    step.reboots = true ↔ Drive.NeedsReboot (before.current bus slot) drive bus := by
  cases h with
  | place hplaced hstep =>
    have hslot := (Drive.isLocal_placement bus guest).place _ _ _ step hstep _ hkey
    obtain rfl := Slot.key_inj hslot
    obtain rfl := Option.some.inj (hasked.symm.trans hplaced)
    exact Drive.reboots_iff_of_mem_place hstep (hkey ▸ rfl)
  | remove hremoved hcurrent =>
    obtain rfl := Slot.key_inj (Option.some.inj hkey)
    obtain rfl := Option.some.inj (hasked.symm.trans hremoved)
    cases bus <;> simp [Step.reboots, Drive.NeedsReboot, Bus.canHotplug]

/-! ## Other settings -/

theorem Step.IsFor.exists_value?_eq {key : String} {reboot : Bool} {step : Step}
    (h : step.IsFor key reboot False) : ∃ v, step.value? = some v := by
  cases h with
  | set value => exact ⟨value, rfl⟩
  | delete hnot => exact hnot.elim

theorem CloudInit.PlanStep.reboots_eq {base desired : CloudInit} {step : Step}
    (h : PlanStep base desired step) : step.reboots = false := by
  cases h with
  | addressing _ _ hstep => exact hstep.reboots_eq
  | _ _ hstep => exact hstep.reboots_eq

/-- The steps for the topology and for the model are those that need a reboot. -/
theorem Cpu.PlanStep.reboots_iff {base desired : Cpu} {step : Step} (h : PlanStep base desired step)
    {key : String} (hkey : step.key? = some key) :
    step.reboots = true ↔ key ∈ [coresKey, socketsKey, numaKey, modelKey] := by
  cases h with
  | cores _ hstep | sockets _ hstep | numa _ hstep | limit _ hstep | units _ hstep
  | virtualCores _ hstep | affinity _ hstep | model _ hstep =>
    rw [hstep.reboots_eq, ← hstep.key_eq hkey]
    decide
  | refuse cause => cases hkey

theorem NetworkInterface.needsReboot_iff {before after : NetworkInterface} :
    needsReboot before after = true ↔ after.DiffersInCard before := by
  have hcard : after.card = before.card ↔
      after.model.getD .virtio = before.model.getD .virtio := Iff.rfl
  simp only [needsReboot, DiffersInCard, Bool.or_eq_true, decide_eq_true_eq, ne_eq, hcard, or_assoc]

theorem NetworkInterface.PlanStep.reboots_iff
    {current desired : SlotMap .network NetworkInterface} {step : Step}
    (h : PlanStep current desired step) {slot : Slot .network}
    (hkey : step.key? = some (slot.key stem)) :
    step.reboots = true ↔ (∃ v, step.value? = some v) ∧ ∃ before after,
      current.get? slot = some before ∧ desired.get? slot = some after ∧
        (after.laidOver before).DiffersInCard before := by
  cases h with
  | add hcurrent value =>
    obtain rfl := Slot.key_inj (Option.some.inj hkey)
    simp [Step.reboots, hcurrent]
  | change hcurrent hdesired value =>
    obtain rfl := Slot.key_inj (Option.some.inj hkey)
    simp [Step.reboots, Step.value?, hcurrent, hdesired, needsReboot_iff]
  | remove hcurrent => simp [Step.reboots, Step.value?]

theorem Value.ofWord_inj {α : Type} [Word α] {a b : α} (h : Value.ofWord a = Value.ofWord b) :
    a = b := by
  have hnat : Word.toNat a = Word.toNat b := Int.ofNat.inj (Value.int.inj h)
  rw [← Word.ofNat_toNat a, hnat, Word.ofNat_toNat]

namespace Memory

theorem isShrinking_iff {before : Option UInt32} {after : UInt32} :
    isShrinking before (some after) = true ↔ ∃ n, before = some n ∧ after < n := by
  cases before <;> simp [isShrinking]

theorem PlanStep.reboots_iff {base desired : Memory} {step : Step} (h : PlanStep base desired step)
    {key : String} (hkey : step.key? = some key) :
    step.reboots = true ↔ key = capacityKey ∧
      ∃ before after, base.capacity = some before ∧ step.value? = some (.ofWord after) ∧
        after < before := by
  cases h with
  | @capacity n hn =>
    rw [Step.reboots, isShrinking_iff]
    constructor
    · rintro ⟨before, hbefore, hlt⟩
      exact ⟨(Option.some.inj hkey).symm, before, n, hbefore, rfl, hlt⟩
    · rintro ⟨-, before, after, hbefore, hvalue, hlt⟩
      exact ⟨before, hbefore, Value.ofWord_inj (Option.some.inj hvalue) ▸ hlt⟩
  | minimum _ hstep | shares _ hstep =>
    rw [hstep.reboots_eq, ← hstep.key_eq hkey]
    exact iff_of_false Bool.false_ne_true fun hcapacity ↦ absurd hcapacity.1 (by decide)
  | leftover =>
    exact iff_of_false Bool.false_ne_true fun hcapacity ↦
      absurd ((Option.some.inj hkey).trans hcapacity.1) (by decide)

end Memory

/-! ## All steps -/

namespace Configuration

variable {version : Version} {guest : GuestId} {current desired : Configuration} {step : Step}

private theorem rebootsFor_of_cpu {base cpu : Cpu} (h : Cpu.PlanStep base cpu step) {key : String}
    (hkey : step.key? = some key) (hreboots : step.reboots = true) :
    current.RebootsFor desired key step.value? := by
  cases h with
  | cores _ hstep =>
    obtain ⟨v, hv⟩ := hstep.exists_value?_eq
    exact hstep.key_eq hkey ▸ hv ▸ .cores v
  | sockets _ hstep =>
    obtain ⟨v, hv⟩ := hstep.exists_value?_eq
    exact hstep.key_eq hkey ▸ hv ▸ .sockets v
  | numa _ hstep =>
    obtain ⟨v, hv⟩ := hstep.exists_value?_eq
    exact hstep.key_eq hkey ▸ hv ▸ .numa v
  | model _ hstep => exact hstep.key_eq hkey ▸ .cpuModel _
  | limit _ hstep | units _ hstep | virtualCores _ hstep | affinity _ hstep =>
    exact (Bool.false_ne_true (hstep.reboots_eq.symm.trans hreboots)).elim
  | refuse => cases hkey

/-- A step that needs a reboot is in the policy. -/
theorem rebootsFor_of_mem_plan (h : step ∈ desired.plan version (some guest) (some current))
    {key : String} (hkey : step.key? = some key) (hreboots : step.reboots = true) :
    current.RebootsFor desired key step.value? := by
  obtain ⟨s, hs⟩ := exists_planStep_of_mem_plan h
  -- settings that never need a reboot
  have hnever (hnot : step.reboots = false) : False :=
    Bool.false_ne_true (hnot.symm.trans hreboots)
  cases hs with
  | agent _ hstep =>
    obtain ⟨v, hv⟩ := hstep.exists_value?_eq
    exact hstep.key_eq hkey ▸ hv ▸ .agent v
  | cloudInit _ hstep => exact (hnever hstep.reboots_eq).elim
  | cpu _ hstep => exact rebootsFor_of_cpu hstep hkey hreboots
  | drive bus hstep =>
    obtain ⟨slot, drive, rfl, hasked⟩ := hstep.exists_asked hkey
    exact .drive hasked ((hstep.reboots_iff hkey hasked).1 hreboots) _
  | memory _ hstep =>
    obtain ⟨rfl, before, after, hbefore, hvalue, hlt⟩ := (hstep.reboots_iff hkey).1 hreboots
    rw [hvalue]
    refine .capacity ?_ hlt
    cases hcurrent : current.memory with
    | none => rw [hcurrent] at hbefore; cases hbefore
    | some base => rw [hcurrent] at hbefore; exact hbefore
  | network hsome hstep =>
    obtain ⟨slot, rfl⟩ := hstep.exists_slot hkey
    obtain ⟨⟨v, hv⟩, before, after, hbefore, hafter, hdiffers⟩ :=
      (hstep.reboots_iff hkey).1 hreboots
    exact hv ▸ .network hbefore (by rw [hsome]; exact hafter) hdiffers v
  | pciDevice _ slot hstep => exact hstep.key_eq hkey ▸ .pciDevice slot _
  | serial _ slot hstep => exact hstep.key_eq hkey ▸ .serial slot _
  | tpm _ hstep => exact hstep.key_eq hkey ▸ .tpm _
  | description _ hstep | name _ hstep | onBoot _ hstep | isProtected _ hstep | tags _ hstep =>
    exact (hnever hstep.reboots_eq).elim
  | usb _ slot hstep => exact (hnever hstep.reboots_eq).elim
  | pool _ hguest => cases hguest
  | ignorePool => cases hkey

private theorem planStep_of_slot (h : step ∈ desired.plan version (some guest) (some current))
    {bus : Bus} {slot : Slot bus.kind} (hkey : step.key? = some (slot.key bus.stem)) :
    Disks.PlanStep (some guest) (current.disks.getD { }) (desired.disks.getD { }) desired.iso bus
      step := by
  cases planStep_of_owner? h hkey (bus.owner?_key slot) with
  | drive other hstep =>
    obtain ⟨slot', -, hslot', -⟩ := hstep.exists_asked hkey
    by_cases hbus : bus = other
    · exact hbus ▸ hstep
    · exact absurd hslot'.symm (Bus.key_ne hbus slot slot')

/-- A step that is in the policy needs a reboot. -/
theorem reboots_of_rebootsFor (h : step ∈ desired.plan version (some guest) (some current))
    {key : String} (hkey : step.key? = some key)
    (hpolicy : current.RebootsFor desired key step.value?) : step.reboots = true := by
  -- the steps for the CPU
  have hcpu (howner : Setting.owner? key = some .cpu)
      (hmem : key ∈ [Cpu.coresKey, Cpu.socketsKey, Cpu.numaKey, Cpu.modelKey]) :
      step.reboots = true := by
    cases planStep_of_owner? h hkey howner with
    | cpu _ hstep => exact (hstep.reboots_iff hkey).2 hmem
  generalize hvalue : step.value? = new at hpolicy
  cases hpolicy with
  | agent v =>
    cases planStep_of_owner? h hkey rfl with
    | agent _ hstep => exact hstep.reboots_eq
  | cores v => exact hcpu rfl (by decide)
  | sockets v => exact hcpu rfl (by decide)
  | numa v => exact hcpu rfl (by decide)
  | cpuModel => exact hcpu rfl (by decide)
  | capacity hbefore hlt =>
    cases planStep_of_owner? h hkey rfl with
    | memory _ hstep =>
      refine (hstep.reboots_iff hkey).2 ⟨rfl, _, _, ?_, hvalue, hlt⟩
      obtain ⟨base, hbase, hcapacity⟩ := Option.bind_eq_some_iff.1 hbefore
      rw [hbase]
      exact hcapacity
  | pciDevice slot =>
    cases planStep_of_owner? h hkey (Setting.owner?_key slot (by decide) rfl) with
    | pciDevice _ _ hstep => exact hstep.reboots_eq
  | serial slot =>
    cases planStep_of_owner? h hkey (Setting.owner?_key slot (by decide) rfl) with
    | serial _ _ hstep => exact hstep.reboots_eq
  | tpm =>
    cases planStep_of_owner? h hkey rfl with
    | tpm _ hstep => exact hstep.reboots_eq
  | @network slot before after hbefore hafter hdiffers v =>
    cases planStep_of_owner? h hkey (Setting.owner?_key slot (by decide) rfl) with
    | network hsome hstep =>
      rw [hsome] at hafter
      exact (hstep.reboots_iff hkey).2 ⟨⟨v, hvalue⟩, before, after, hbefore, hafter, hdiffers⟩
  | drive hafter hneeds => exact ((planStep_of_slot h hkey).reboots_iff hkey hafter).2 hneeds

/-- **Every step keeps to the policy.** -/
theorem reboots_iff_of_mem_plan (h : step ∈ desired.plan version (some guest) (some current))
    {key : String} (hkey : step.key? = some key) :
    step.reboots = true ↔ current.RebootsFor desired key step.value? :=
  ⟨rebootsFor_of_mem_plan h hkey, reboots_of_rebootsFor h hkey⟩

end Configuration

/-- **A reboot is needed exactly if the policy says so**: if some key is set to a value, or removed,
that needs one. -/
theorem planUpdate_reboot_iff {version : Version} {guest : GuestId}
    {current desired : Configuration} {change : Change}
    (hchange : (planUpdate version guest current desired).result = .ok change) :
    change.reboot = true ↔
      (∃ key v, change.params.get? key = some v ∧ current.RebootsFor desired key (some v)) ∨
        ∃ key ∈ change.deleted, current.RebootsFor desired key none := by
  obtain ⟨-, -, rfl⟩ := planUpdate_eq_ok_iff.1 hchange
  have hnodup := Configuration.nodup_keys_plan version (some guest) current desired
  rw [Draft.reboot_change_iff]
  constructor
  · rintro ⟨step, hstep, hreboots⟩
    cases step with
    | set key v reboot =>
      exact .inl ⟨key, v, (Draft.get?_change_eq_some_iff hnodup).2 ⟨reboot, hstep⟩,
        (Configuration.reboots_iff_of_mem_plan hstep rfl).1 hreboots⟩
    | delete key reboot =>
      exact .inr ⟨key, Draft.mem_deleted_change_iff.2 ⟨reboot, hstep⟩,
        (Configuration.reboots_iff_of_mem_plan hstep rfl).1 hreboots⟩
    | ignorePool pool => cases hreboots
    | refuse cause => cases hreboots
  · rintro (⟨key, v, hset, hpolicy⟩ | ⟨key, hdelete, hpolicy⟩)
    · obtain ⟨reboot, hstep⟩ := (Draft.get?_change_eq_some_iff hnodup).1 hset
      exact ⟨_, hstep, (Configuration.reboots_iff_of_mem_plan hstep rfl).2 hpolicy⟩
    · obtain ⟨reboot, hstep⟩ := Draft.mem_deleted_change_iff.1 hdelete
      exact ⟨_, hstep, (Configuration.reboots_iff_of_mem_plan hstep rfl).2 hpolicy⟩

/-- A guest with an interface and an empty CD-ROM drive. -/
def bridgedGuest : Wire :=
  .ofList [("ide2", .text "none,media=cdrom"), ("net0", .text "virtio,bridge=vmbr0")]

/-- What is asked for to give the interface more queues, and to put an image into the drive. -/
def queuedGuest : Configuration where
  iso := some { storage := "local", file := "debian.iso" }
  networks := some (.ofList [(⟨0, by decide⟩, { queues := some 4 })])

/-- Swapping media needs no reboot, and giving an interface more queues does. -/
theorem planUpdate_reboot_iff_of_queues :
    ∃ (current : Configuration) (change : Change),
      Configuration.ofWire bridgedGuest = .ok current ∧
      (planUpdate ⟨8, 1, 0⟩ ⟨100, by decide, by decide⟩ current queuedGuest).result = .ok change ∧
      change.params.keys = ["ide2", "net0"] ∧ change.reboot = true ∧
      (change.reboot = true ↔
        (∃ key v, change.params.get? key = some v ∧
          current.RebootsFor queuedGuest key (some v)) ∨
          ∃ key ∈ change.deleted, current.RebootsFor queuedGuest key none) := by
  have h : ((Configuration.ofWire bridgedGuest).toOption.bind fun current ↦
      (planUpdate ⟨8, 1, 0⟩ ⟨100, by decide, by decide⟩ current queuedGuest).result.toOption.bind
        fun change ↦ some (change.params.keys, change.reboot)) =
      some (["ide2", "net0"], true) := by decide +kernel
  obtain ⟨current, hcurrent, h⟩ := exists_of_toOption_bind h
  obtain ⟨change, hchange, hkeys⟩ := exists_of_toOption_bind h
  obtain ⟨hparams, hreboot⟩ := Prod.mk.inj (Option.some.inj hkeys)
  exact ⟨current, change, hcurrent, hchange, hparams, hreboot, planUpdate_reboot_iff hchange⟩

end GuestConfig
