import GuestConfig.Proofs.Commutation
import GuestConfig.Proofs.Plan.Parts

/-!
# What is not asked for is left alone

An update is made of what an operator asks for, and everything else about the guest stays: settings
that are not mentioned, and keys that stand for no setting at all.  It takes a table to say what is
asked for key by key.  Most keys are asked for by one field; the model and the features of the CPU
share a key, a drive is asked for by the drives of its bus, whether they name its slot or not, and
the slot for installation media is asked for by an installation image as well.

There is one exception.  Shares without a balloon mean nothing, so an update of the memory that
leaves no balloon takes the shares away, even if it does not mention them.

## What is here

* `Configuration.AsksFor` — **the table**: the keys that a configuration asks for.
* `Configuration.LeavesSharesOver` — the exception.
* `Configuration.asksFor_or_of_mem_plan` — every step is about a key that is asked for, or removes
  shares that are left over.
* `planUpdate_frame` — **an update leaves alone what it does not ask for.**
-/

set_option autoImplicit false

namespace GuestConfig

/-! ## What is asked for -/

/-- The keys that settings of the CPU ask for. -/
inductive Cpu.AsksFor (cpu : Cpu) : String → Prop
  | cores (h : cpu.cores.isSome) : AsksFor cpu coresKey
  | sockets (h : cpu.sockets.isSome) : AsksFor cpu socketsKey
  | numa (h : cpu.numa.isSome) : AsksFor cpu numaKey
  | limit (h : cpu.limit.isSome) : AsksFor cpu limitKey
  | units (h : cpu.units.isSome) : AsksFor cpu unitsKey
  | virtualCores (h : cpu.virtualCores.isSome) : AsksFor cpu virtualCoresKey
  | affinity (h : cpu.affinity.isSome) : AsksFor cpu affinityKey
  /-- The model and the features share a key. -/
  | model (h : cpu.model.isSome ∨ cpu.flags.isSome) : AsksFor cpu modelKey

/-- The keys that settings of the memory ask for. -/
inductive Memory.AsksFor (memory : Memory) : String → Prop
  | capacity (h : memory.capacity.isSome) : AsksFor memory capacityKey
  | minimum (h : memory.minimum.isSome) : AsksFor memory minimumKey
  | shares (h : memory.shares.isSome) : AsksFor memory sharesKey

/-- The keys that cloud-init settings ask for. -/
inductive CloudInit.AsksFor (settings : CloudInit) : String → Prop
  | custom (h : settings.custom.isSome) : AsksFor settings customKey
  | searchDomain (h : (settings.dns.bind (·.searchDomain)).isSome) :
      AsksFor settings searchDomainKey
  | nameServers (h : (settings.dns.bind (·.nameServers)).isSome) : AsksFor settings nameServersKey
  /-- The addresses are asked for as a whole. -/
  | addressing (h : settings.addressing.isSome) (slot : Slot .network) :
      AsksFor settings (slot.key addressingStem)
  | publicKeys (h : settings.publicKeys.isSome) : AsksFor settings PublicKeys.key
  | username (h : settings.username.isSome) : AsksFor settings usernameKey
  | password (h : settings.password.isSome) : AsksFor settings passwordKey
  | upgradePackages (h : settings.upgradePackages.isSome) : AsksFor settings upgradeKey

namespace Configuration

/-- **The keys that a configuration asks for.**  A family of devices is asked for as a whole, and
the pool of a guest that exists is not. -/
inductive AsksFor (desired : Configuration) : String → Prop
  | agent (h : desired.agent.isSome) : AsksFor desired Agent.key
  | cloudInit {settings : CloudInit} {key : String} (h : desired.cloudInit = some settings)
      (hkey : settings.AsksFor key) : AsksFor desired key
  | cpu {cpu : Cpu} {key : String} (h : desired.cpu = some cpu) (hkey : cpu.AsksFor key) :
      AsksFor desired key
  | description (h : desired.description.isSome) : AsksFor desired descriptionKey
  /-- The drives of a bus are asked for as a whole. -/
  | drive {disks : Disks} (hdisks : desired.disks = some disks) {bus : Bus}
      (h : (disks.onBus bus).isSome) (slot : Slot bus.kind) : AsksFor desired (slot.key bus.stem)
  /-- The slot for installation media is asked for by an image as well. -/
  | iso (h : desired.iso.isSome) : AsksFor desired Disks.mediaKey
  | memory {memory : Memory} {key : String} (h : desired.memory = some memory)
      (hkey : memory.AsksFor key) : AsksFor desired key
  | name (h : desired.name.isSome) : AsksFor desired nameKey
  | network (h : desired.networks.isSome) (slot : Slot .network) :
      AsksFor desired (slot.key NetworkInterface.stem)
  | onBoot (h : desired.onBoot.isSome) : AsksFor desired onBootKey
  | pciDevice (h : desired.pciDevices.isSome) (slot : Slot .pci) :
      AsksFor desired (slot.key PciDevice.stem)
  | isProtected (h : desired.isProtected.isSome) : AsksFor desired protectionKey
  | serial (h : desired.serials.isSome) (slot : Slot .serial) :
      AsksFor desired (slot.key SerialPort.stem)
  | tags (h : desired.tags.isSome) : AsksFor desired Tags.key
  | tpm (h : desired.tpm.isSome) : AsksFor desired Tpm.key
  | usb (h : desired.usbs.isSome) (slot : Slot .usb) : AsksFor desired (slot.key UsbDevice.stem)

/-- Shares are left over: the memory is asked for without shares, there are some in effect, and
there will be no balloon for them to count for. -/
def LeavesSharesOver (desired current : Configuration) : Prop :=
  ∃ memory, desired.memory = some memory ∧ memory.shares = none ∧
    (current.memory.getD { }).shares.any (0 < ·) = true ∧
    (memory.laidOver (current.memory.getD { })).canShrink = false

end Configuration

/-! ## Steps are about what is asked for -/

theorem Cpu.PlanStep.asksFor {base desired : Cpu} {step : Step} (h : PlanStep base desired step)
    {key : String} (hkey : step.key? = some key) : desired.AsksFor key := by
  cases h with
  | cores h hstep => exact hstep.key_eq hkey ▸ .cores h
  | sockets h hstep => exact hstep.key_eq hkey ▸ .sockets h
  | numa h hstep => exact hstep.key_eq hkey ▸ .numa h
  | limit h hstep => exact hstep.key_eq hkey ▸ .limit h
  | units h hstep => exact hstep.key_eq hkey ▸ .units h
  | virtualCores h hstep => exact hstep.key_eq hkey ▸ .virtualCores h
  | affinity h hstep => exact hstep.key_eq hkey ▸ .affinity h
  | model h hstep => exact hstep.key_eq hkey ▸ .model h
  | refuse cause => cases hkey

theorem CloudInit.PlanStep.asksFor {base desired : CloudInit} {step : Step}
    (h : PlanStep base desired step) {key : String} (hkey : step.key? = some key) :
    desired.AsksFor key := by
  cases h with
  | custom h hstep => exact hstep.key_eq hkey ▸ .custom h
  | searchDomain h hstep => exact hstep.key_eq hkey ▸ .searchDomain h
  | nameServers h hstep => exact hstep.key_eq hkey ▸ .nameServers h
  | addressing h slot hstep => exact hstep.key_eq hkey ▸ .addressing h slot
  | publicKeys h hstep => exact hstep.key_eq hkey ▸ .publicKeys h
  | username h hstep => exact hstep.key_eq hkey ▸ .username h
  | password h hstep => exact hstep.key_eq hkey ▸ .password h
  | upgradePackages h hstep => exact hstep.key_eq hkey ▸ .upgradePackages h

theorem Memory.PlanStep.asksFor_or {base desired : Memory} {step : Step}
    (h : PlanStep base desired step) {key : String} (hkey : step.key? = some key) :
    desired.AsksFor key ∨ step = .delete sharesKey false ∧ desired.shares = none ∧
      base.shares.any (0 < ·) = true ∧ (desired.laidOver base).canShrink = false := by
  cases h with
  | capacity h => exact .inl (Option.some.inj hkey ▸ .capacity (h ▸ rfl))
  | minimum h hstep => exact .inl (hstep.key_eq hkey ▸ .minimum h)
  | shares h hstep => exact .inl (hstep.key_eq hkey ▸ .shares h)
  | leftover h hbase hshrink => exact .inr ⟨rfl, h, hbase, hshrink⟩

namespace Configuration

variable {version : Version} {guest : GuestId} {current desired : Configuration} {step : Step}

/-- A drive that is asked for is asked for by its bus or by the installation image. -/
private theorem asksFor_of_asked {bus : Bus} {slot : Slot bus.kind} {drive : Option Drive}
    (h : (desired.disks.getD { }).asked desired.iso bus slot = some drive) :
    desired.AsksFor (slot.key bus.stem) := by
  by_cases hmedia : desired.iso.isSome ∧ slot.key bus.stem = Disks.mediaKey
  · rw [hmedia.2]
    exact .iso hmedia.1
  · have hnone : desired.iso.filter (fun _ ↦ slot.key bus.stem = Disks.mediaKey) = none :=
      Option.filter_eq_none_iff.2 fun image himage hkey ↦
        hmedia ⟨Option.isSome_iff_exists.2 ⟨image, himage⟩, of_decide_eq_true hkey⟩
    rw [Disks.asked, hnone] at h
    obtain ⟨drives, hdrives, -⟩ := Option.map_eq_some_iff.1 h
    cases hdisks : desired.disks with
    | none =>
      rw [hdisks] at hdrives
      cases bus <;> cases hdrives
    | some disks =>
      rw [hdisks] at hdrives
      exact .drive hdisks (Option.isSome_iff_exists.2 ⟨drives, hdrives⟩) slot

/-- **Every step is about a key that is asked for**, or removes shares that are left over. -/
theorem asksFor_or_of_mem_plan (h : step ∈ desired.plan version (some guest) (some current))
    {key : String} (hkey : step.key? = some key) :
    desired.AsksFor key ∨ step = .delete Memory.sharesKey false ∧
      desired.LeavesSharesOver current := by
  obtain ⟨s, hs⟩ := exists_planStep_of_mem_plan h
  cases hs with
  | agent hsome hstep => exact .inl (hstep.key_eq hkey ▸ .agent hsome)
  | cloudInit hsettings hstep => exact .inl (.cloudInit hsettings (hstep.asksFor hkey))
  | cpu hcpu hstep => exact .inl (.cpu hcpu (hstep.asksFor hkey))
  | description hsome hstep => exact .inl (hstep.key_eq hkey ▸ .description hsome)
  | drive bus hstep =>
    obtain ⟨slot, drive, rfl, hasked⟩ := hstep.exists_asked hkey
    exact .inl (asksFor_of_asked hasked)
  | memory hmemory hstep =>
    rcases hstep.asksFor_or hkey with hasks | ⟨hdelete, hleft⟩
    · exact .inl (.memory hmemory hasks)
    · exact .inr ⟨hdelete, _, hmemory, hleft⟩
  | name hsome hstep => exact .inl (hstep.key_eq hkey ▸ .name hsome)
  | network hsome hstep =>
    obtain ⟨slot, rfl⟩ := hstep.exists_slot hkey
    exact .inl (.network (hsome ▸ rfl) slot)
  | onBoot hsome hstep => exact .inl (hstep.key_eq hkey ▸ .onBoot hsome)
  | pciDevice hsome slot hstep => exact .inl (hstep.key_eq hkey ▸ .pciDevice hsome slot)
  | pool _ hguest => cases hguest
  | ignorePool => cases hkey
  | isProtected hsome hstep => exact .inl (hstep.key_eq hkey ▸ .isProtected hsome)
  | serial hsome slot hstep => exact .inl (hstep.key_eq hkey ▸ .serial hsome slot)
  | tags hsome hstep => exact .inl (hstep.key_eq hkey ▸ .tags hsome)
  | tpm hsome hstep => exact .inl (hstep.key_eq hkey ▸ .tpm hsome)
  | usb hsome slot hstep => exact .inl (hstep.key_eq hkey ▸ .usb hsome slot)

theorem delete_shares_mem_plan (h : desired.LeavesSharesOver current) :
    .delete Memory.sharesKey false ∈ desired.plan version (some guest) (some current) := by
  obtain ⟨memory, hmemory, hshares, hbase, hshrink⟩ := h
  refine mem_plan_iff.2 ⟨.memory, ?_⟩
  rw [planOnly_eq, hmemory]
  exact Memory.delete_shares_mem_plan hshares hbase hshrink

end Configuration

/-! ## Updates -/

/-- **An update leaves alone what it does not ask for.**  A key that is not asked for is never set;
it is deleted only if it holds shares that are left over, and then it is; and otherwise the guest
has under it what it had before. -/
theorem planUpdate_frame {version : Version} {guest : GuestId} {current desired : Configuration}
    {change : Change} (hchange : (planUpdate version guest current desired).result = .ok change)
    {key : String} (hkey : ¬desired.AsksFor key) (w : Wire) :
    change.params.get? key = none ∧
      (key ∈ change.deleted ↔ key = Memory.sharesKey ∧ desired.LeavesSharesOver current) ∧
      (key ∉ change.deleted → (change.applyTo w).get? key = w.get? key) := by
  obtain ⟨-, -, rfl⟩ := planUpdate_eq_ok_iff.1 hchange
  generalize hdraft : desired.plan version (some guest) (some current) = draft
  have hsteps {step : Step} (hstep : step ∈ draft) (hstepKey : step.key? = some key) :
      step = .delete Memory.sharesKey false ∧ desired.LeavesSharesOver current :=
    (Configuration.asksFor_or_of_mem_plan (hdraft ▸ hstep) hstepKey).resolve_left hkey
  have hparams : draft.change.params.get? key = none := by
    cases hget : draft.change.params.get? key with
    | none => rfl
    | some value =>
      obtain ⟨reboot, hset⟩ := Draft.exists_set_of_get?_change hget
      cases (hsteps hset rfl).1
  refine ⟨hparams, ⟨fun hdeleted ↦ ?_, fun ⟨hshares, hleft⟩ ↦ ?_⟩, fun hdeleted ↦ ?_⟩
  · obtain ⟨reboot, hdelete⟩ := Draft.mem_deleted_change_iff.1 hdeleted
    obtain ⟨hstep, hleft⟩ := hsteps hdelete rfl
    exact ⟨(Step.delete.inj hstep).1, hleft⟩
  · rw [hshares, ← hdraft]
    exact Draft.mem_deleted_change_iff.2 ⟨false, Configuration.delete_shares_mem_plan hleft⟩
  · rw [Change.get?_applyTo, Change.effect, if_neg hdeleted, hparams]
    rfl

/-- A guest with shares and without a balloon, and with a key that stands for no setting. -/
def weightedGuest : Wire :=
  .ofList [("boot", .text "order=scsi0"), ("memory", .int 512), ("shares", .int 9)]

/-- What is asked for to give the guest half of its memory. -/
def halvedGuest : Configuration where
  memory := some { capacity := some 256 }

theorem eq_of_asksFor_halvedGuest {key : String} (h : halvedGuest.AsksFor key) :
    key = Memory.capacityKey := by
  cases h with
  | memory h hkey =>
    obtain rfl := Option.some.inj h
    cases hkey with
    | capacity h => rfl
    | minimum h | shares h => exact absurd h Bool.false_ne_true
  | cloudInit h hkey | cpu h hkey => exact absurd h.symm (Option.some_ne_none _)
  | drive h hbus slot => exact absurd h.symm (Option.some_ne_none _)
  | network h slot | pciDevice h slot | serial h slot | usb h slot =>
    exact absurd h Bool.false_ne_true
  | agent h | description h | iso h | name h | onBoot h | isProtected h | tags h | tpm h =>
    exact absurd h Bool.false_ne_true

/-- A guest loses memory: the key that stands for no setting stays, and its shares are left over. -/
theorem planUpdate_frame_of_halved :
    ∃ (current : Configuration) (change : Change),
      Configuration.ofWire weightedGuest = .ok current ∧
      (planUpdate ⟨8, 1, 0⟩ ⟨100, by decide, by decide⟩ current halvedGuest).result = .ok change ∧
      change.deleted = ["shares"] ∧
      ¬halvedGuest.AsksFor "boot" ∧ ¬halvedGuest.AsksFor "shares" ∧
      (change.params.get? "boot" = none ∧
        ("boot" ∈ change.deleted ↔
          "boot" = Memory.sharesKey ∧ halvedGuest.LeavesSharesOver current) ∧
        ("boot" ∉ change.deleted →
          (change.applyTo weightedGuest).get? "boot" = weightedGuest.get? "boot")) ∧
      (change.params.get? "shares" = none ∧
        ("shares" ∈ change.deleted ↔
          "shares" = Memory.sharesKey ∧ halvedGuest.LeavesSharesOver current) ∧
        ("shares" ∉ change.deleted →
          (change.applyTo weightedGuest).get? "shares" = weightedGuest.get? "shares")) := by
  have h : ((Configuration.ofWire weightedGuest).toOption.bind fun current ↦
      (planUpdate ⟨8, 1, 0⟩ ⟨100, by decide, by decide⟩ current halvedGuest).result.toOption.bind
        fun change ↦ some change.deleted) = some ["shares"] := by decide +kernel
  obtain ⟨current, hcurrent, h⟩ := exists_of_toOption_bind h
  obtain ⟨change, hchange, hdeleted⟩ := exists_of_toOption_bind h
  have hboot : ¬halvedGuest.AsksFor "boot" := fun h ↦
    absurd (eq_of_asksFor_halvedGuest h) (by decide)
  have hshares : ¬halvedGuest.AsksFor "shares" := fun h ↦
    absurd (eq_of_asksFor_halvedGuest h) (by decide)
  exact ⟨current, change, hcurrent, hchange, Option.some.inj hdeleted, hboot, hshares,
    planUpdate_frame hchange hboot weightedGuest, planUpdate_frame hchange hshares weightedGuest⟩

end GuestConfig
