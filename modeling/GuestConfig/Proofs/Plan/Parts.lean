import GuestConfig.Proofs.Disk.Plan
import GuestConfig.Proofs.Plan.Steps

/-!
# The steps that a setting can take

The plan for a setting consists of parts, most of which are about one key.  What matters about such
a part is the same everywhere: what has to be asked for, which key it is about, whether a running
guest sees the change, and that the key is only removed if it is there.  Here every plan is taken
apart in this way, once, and what is proved about all steps of all plans goes through the result.

## What is here

* `Step.IsFor` — a step about one key, with `Draft.isFor_of_mem_setting`,
  `Draft.isFor_of_mem_written` and `Draft.isFor_of_mem_rendered`.
* `Cpu.PlanStep`, `Memory.PlanStep`, `CloudInit.PlanStep`, `NetworkInterface.PlanStep`,
  `Disks.PlanStep` — the steps for the settings with several parts, and the lemmas that there are no
  others.
* `Agent.isFor_of_mem_plan`, `Tags.isFor_of_mem_plan`, `Tpm.isFor_of_mem_plan`,
  `Placement.isFor_of_mem_byText` — the same for those with one part.
* `Configuration.PlanStep` — the steps for each setting, and the lemma that there are no others.
* `Configuration.mem_planOnly_of_owner?` — a step of a plan belongs to the setting of its key.
-/

set_option autoImplicit false

namespace GuestConfig

/-! ## Steps about one key -/

/-- A step about one key: the key is given a value, or it is removed if it is there. -/
inductive Step.IsFor (key : String) (reboot : Bool) (isThere : Prop) : Step → Prop
  /-- The key is given a value. -/
  | set (value : Value) : IsFor key reboot isThere (.set key value reboot)
  /-- The key is removed. -/
  | delete (h : isThere) : IsFor key reboot isThere (.delete key reboot)

namespace Step.IsFor

variable {key : String} {reboot : Bool} {isThere : Prop} {step : Step}

theorem key?_eq (h : step.IsFor key reboot isThere) : step.key? = some key := by
  cases h <;> rfl

theorem key_eq {key' : String} (h : step.IsFor key reboot isThere) (hkey : step.key? = some key') :
    key = key' :=
  Option.some.inj (h.key?_eq.symm.trans hkey)

theorem isSome_key? (h : step.IsFor key reboot isThere) : step.key?.isSome := by
  rw [h.key?_eq]
  rfl

theorem reboots_eq (h : step.IsFor key reboot isThere) : step.reboots = reboot := by
  cases h <;> rfl

theorem imp {isThere' : Prop} (h : step.IsFor key reboot isThere) (himp : isThere → isThere') :
    step.IsFor key reboot isThere' := by
  cases h with
  | set value => exact .set value
  | delete hthere => exact .delete (himp hthere)

theorem of_delete {key' : String} {reboot' : Bool}
    (h : (Step.delete key' reboot').IsFor key reboot isThere) : key' = key ∧ isThere := by
  cases h with
  | delete hthere => exact ⟨rfl, hthere⟩

end Step.IsFor

namespace Draft

theorem isFor_of_mem_setting {α : Type} [DecidableEq α] {key : String} {render : α → Option Value}
    {reboot : Bool} {current desired : Option α} {step : Step}
    (h : step ∈ setting key render reboot current desired) :
    desired.isSome ∧ step.IsFor key reboot current.isSome := by
  obtain ⟨a, rfl, -, ⟨v, -, rfl⟩ | ⟨-, hcurrent, rfl⟩⟩ := mem_setting_iff.1 h
  · exact ⟨rfl, .set v⟩
  · exact ⟨rfl, .delete hcurrent⟩

theorem isFor_of_mem_written {α : Type} [DecidableEq α] {key : String} {render : α → Value}
    {reboot : Bool} {current desired : Option α} {step : Step}
    (h : step ∈ setting key (fun a ↦ some (render a)) reboot current desired) :
    desired.isSome ∧ step.IsFor key reboot False := by
  obtain ⟨a, rfl, -, ⟨v, -, rfl⟩ | ⟨hnone, -⟩⟩ := mem_setting_iff.1 h
  · exact ⟨rfl, .set v⟩
  · cases hnone

theorem exists_of_mem_elim {α : Type} {setting : Option α} {plan : α → Draft} {step : Step}
    (h : step ∈ setting.elim [] plan) : ∃ a, setting = some a ∧ step ∈ plan a := by
  cases setting with
  | none => cases h
  | some a => exact ⟨a, rfl, h⟩

theorem isFor_of_mem_rendered {key : String} {before : Option String} {after : String}
    {step : Step} (h : step ∈ rendered key before after) : step.IsFor key false before.isSome := by
  obtain ⟨-, ⟨-, rfl⟩ | ⟨-, hbefore, rfl⟩⟩ := mem_rendered_iff.1 h
  · exact .set _
  · obtain ⟨s, hs⟩ := Option.isSome_iff_exists.1 hbefore
    exact .delete (Option.isSome_iff_exists.2 ⟨s, (Option.filter_eq_some_iff.1 hs).1⟩)

end Draft

/-! ## Settings with one part -/

theorem Agent.isFor_of_mem_plan {current : Option Agent} {desired : Agent} {step : Step}
    (h : step ∈ plan current desired) : step.IsFor key true False := by
  simp only [plan] at h
  repeat' split at h
  all_goals first | exact List.mem_singleton.1 h ▸ .set _ | cases h

theorem Tags.isFor_of_mem_plan {current desired : Option Tags} {step : Step}
    (h : step ∈ plan current desired) : desired.isSome ∧ step.IsFor key false current.isSome := by
  cases desired with
  | none => cases h
  | some tags =>
    simp only [plan] at h
    split at h
    · cases h
    · next hchange =>
      split at h
      · next hempty =>
        -- no tags are asked for, and those that are there are others
        obtain rfl := List.mem_singleton.1 h
        refine ⟨rfl, .delete ?_⟩
        cases current with
        | none =>
          refine absurd (SortedSet.ext fun a ↦ iff_of_false (SortedSet.not_mem_empty a) ?_) hchange
          rw [SortedSet.mem_iff, List.isEmpty_iff.1 hempty]
          exact List.not_mem_nil
        | some before => rfl
      · exact ⟨rfl, List.mem_singleton.1 h ▸ .set _⟩

theorem Tpm.isFor_of_mem_plan {current : Option Tpm} {desired : Tpm} {step : Step}
    (h : step ∈ plan current desired) : step.IsFor key true current.isSome := by
  unfold plan at h
  split at h
  · exact List.mem_singleton.1 h ▸ .delete rfl
  · exact List.mem_singleton.1 h ▸ .set _
  · cases h

theorem Placement.isFor_of_mem_byText {α : Type} {kind : SlotKind} {text : α → String}
    {reboot : Bool} {stem : String} {current desired : Option (SlotMap kind α)} {step : Step}
    (h : step ∈ (byText text reboot reboot).plan stem current desired) :
    desired.isSome ∧ ∃ slot : Slot kind,
      step.IsFor (slot.key stem) reboot ((current.getD .empty).get? slot).isSome := by
  obtain ⟨devices, rfl, ⟨slot, device, -, hmem⟩ | ⟨slot, device, hcurrent, -, hmem⟩⟩ :=
    mem_plan_iff.1 h
  · refine ⟨rfl, slot, ?_⟩
    simp only [byText] at hmem
    repeat' split at hmem
    all_goals first | exact List.mem_singleton.1 hmem ▸ .set _ | cases hmem
  · refine ⟨rfl, slot, List.mem_singleton.1 hmem ▸ .delete ?_⟩
    rw [hcurrent]
    rfl

/-! ## The CPU -/

namespace Cpu

/-- The steps for the CPU. -/
inductive PlanStep (base desired : Cpu) : Step → Prop
  | cores {step : Step} (h : desired.cores.isSome)
      (hstep : step.IsFor coresKey true False) : PlanStep base desired step
  | sockets {step : Step} (h : desired.sockets.isSome)
      (hstep : step.IsFor socketsKey true False) : PlanStep base desired step
  | numa {step : Step} (h : desired.numa.isSome)
      (hstep : step.IsFor numaKey true False) : PlanStep base desired step
  | limit {step : Step} (h : desired.limit.isSome)
      (hstep : step.IsFor limitKey false base.limit.isSome) : PlanStep base desired step
  | units {step : Step} (h : desired.units.isSome)
      (hstep : step.IsFor unitsKey false base.units.isSome) : PlanStep base desired step
  | virtualCores {step : Step} (h : desired.virtualCores.isSome)
      (hstep : step.IsFor virtualCoresKey false base.virtualCores.isSome) :
      PlanStep base desired step
  | affinity {step : Step} (h : desired.affinity.isSome)
      (hstep : step.IsFor affinityKey false False) : PlanStep base desired step
  | model {step : Step} (h : desired.model.isSome ∨ desired.flags.isSome)
      (hstep : step.IsFor modelKey true (base.model.isSome ∨ base.flags.isSome)) :
      PlanStep base desired step
  | refuse (cause : RuleError) : PlanStep base desired (.refuse cause)

/-- The model and its features are removed only if one of them is there. -/
theorem isFor_of_mem_planModelText {version : Version} {base : Cpu} {model : Option String}
    {flags : Option CpuFlags} {step : Step} (h : step ∈ planModelText version base model flags) :
    step.IsFor modelKey true (base.model.isSome ∨ base.flags.isSome) := by
  simp only [planModelText] at h
  split at h
  · cases h
  · next hchange =>
    split at h
    · exact List.mem_singleton.1 h ▸ .set _
    · next hnone =>
      refine List.mem_singleton.1 h ▸ .delete (Decidable.byContradiction fun hnothing ↦ ?_)
      obtain ⟨hmodel, hflags⟩ := not_or.1 hnothing
      rw [hnone, Option.not_isSome_iff_eq_none.1 hmodel,
        Option.not_isSome_iff_eq_none.1 hflags] at hchange
      exact hchange rfl

theorem planStep_of_mem {version : Version} {current : Option Cpu} {desired : Cpu} {step : Step}
    (h : step ∈ plan version current desired) : PlanStep (current.getD { }) desired step := by
  simp only [plan, List.mem_append, or_assoc] at h
  rcases h with h | h | h | h | h | h | h | h
  · exact .cores (Draft.isFor_of_mem_written h).1 (Draft.isFor_of_mem_written h).2
  · exact .sockets (Draft.isFor_of_mem_written h).1 (Draft.isFor_of_mem_written h).2
  · exact .numa (Draft.isFor_of_mem_written h).1 (Draft.isFor_of_mem_written h).2
  · exact .limit (Draft.isFor_of_mem_setting h).1 (Draft.isFor_of_mem_setting h).2
  · exact .units (Draft.isFor_of_mem_setting h).1 (Draft.isFor_of_mem_setting h).2
  · exact .virtualCores (Draft.isFor_of_mem_setting h).1 (Draft.isFor_of_mem_setting h).2
  · unfold planAffinity at h
    split at h
    · cases h
    · next haffinity =>
      split at h
      · cases h
      · exact .affinity (by rw [haffinity]; rfl) (List.mem_singleton.1 h ▸ .set _)
  · unfold planModel at h
    split at h
    · split at h
      · cases h
      · next hflags =>
        exact .model (.inr (Option.isSome_iff_ne_none.2 (mt Option.isNone_iff_eq_none.2 hflags)))
          (isFor_of_mem_planModelText h)
    · next hmodel =>
      split at h
      · exact List.mem_singleton.1 h ▸ .refuse _
      · exact .model (.inl (by rw [hmodel]; rfl)) (isFor_of_mem_planModelText h)

end Cpu

/-! ## Memory -/

namespace Memory

/-- The steps for the memory. -/
inductive PlanStep (base desired : Memory) : Step → Prop
  | capacity {n : UInt32} (h : desired.capacity = some n) : PlanStep base desired
      (.set capacityKey (.ofWord n) (isShrinking base.capacity (some n)))
  | minimum {step : Step} (h : desired.minimum.isSome)
      (hstep : step.IsFor minimumKey false False) : PlanStep base desired step
  | shares {step : Step} (h : desired.shares.isSome)
      (hstep : step.IsFor sharesKey false base.shares.isSome) : PlanStep base desired step
  | leftover (h : desired.shares = none) (hbase : base.shares.any (0 < ·) = true)
      (hshrink : (desired.laidOver base).canShrink = false) :
      PlanStep base desired (.delete sharesKey false)

theorem planStep_of_mem {current : Option Memory} {desired : Memory} {step : Step}
    (h : step ∈ plan current desired) : PlanStep (current.getD { }) desired step := by
  simp only [plan, List.mem_append, or_assoc] at h
  rcases h with h | h | h
  · obtain ⟨n, hn, -, ⟨v, hv, rfl⟩ | ⟨hnone, -⟩⟩ := Draft.mem_setting_iff.1 h
    · obtain rfl := Option.some.inj hv
      rw [hn]
      exact .capacity hn
    · cases hnone
  · exact .minimum (Draft.isFor_of_mem_written h).1 (Draft.isFor_of_mem_written h).2
  · split at h
    · next hshares =>
      exact .shares (by rw [hshares]; rfl) (Draft.isFor_of_mem_setting h).2
    · next hshares =>
      split at h
      · next hleftover =>
        obtain ⟨hbase, hshrink⟩ := Bool.and_eq_true_iff.1 hleftover
        exact List.mem_singleton.1 h ▸ .leftover hshares hbase (by simpa using hshrink)
      · cases h

/-- Leftover shares are removed: those that are in effect mean nothing without a balloon. -/
theorem delete_shares_mem_plan {current : Option Memory} {desired : Memory}
    (hshares : desired.shares = none) (hbase : (current.getD { }).shares.any (0 < ·) = true)
    (hshrink : (desired.laidOver (current.getD { })).canShrink = false) :
    Step.delete sharesKey false ∈ plan current desired := by
  refine List.mem_append_right _ ?_
  simp [hshares, hbase, hshrink]

end Memory

/-! ## Cloud-init -/

namespace CloudInit

/-- The steps for the cloud-init settings. -/
inductive PlanStep (base desired : CloudInit) : Step → Prop
  | custom {step : Step} (h : desired.custom.isSome)
      (hstep : step.IsFor customKey false base.custom.isSome) : PlanStep base desired step
  | searchDomain {step : Step} (h : (desired.dns.bind (·.searchDomain)).isSome)
      (hstep : step.IsFor searchDomainKey false (base.dns.getD { }).searchDomain.isSome) :
      PlanStep base desired step
  | nameServers {step : Step} (h : (desired.dns.bind (·.nameServers)).isSome)
      (hstep : step.IsFor nameServersKey false (base.dns.getD { }).nameServers.isSome) :
      PlanStep base desired step
  | addressing {step : Step} (h : desired.addressing.isSome) (slot : Slot .network)
      (hstep : step.IsFor (slot.key addressingStem) false
        ((base.addressing.getD .empty).get? slot).isSome) : PlanStep base desired step
  | publicKeys {step : Step} (h : desired.publicKeys.isSome)
      (hstep : step.IsFor PublicKeys.key false base.publicKeys.isSome) : PlanStep base desired step
  | username {step : Step} (h : desired.username.isSome)
      (hstep : step.IsFor usernameKey false base.username.isSome) : PlanStep base desired step
  | password {step : Step} (h : desired.password.isSome)
      (hstep : step.IsFor passwordKey false base.password.isSome) : PlanStep base desired step
  | upgradePackages {step : Step} (h : desired.upgradePackages.isSome)
      (hstep : step.IsFor upgradeKey false False) : PlanStep base desired step

theorem planStep_of_mem {current : Option CloudInit} {desired : CloudInit} {step : Step}
    (h : step ∈ plan current desired) : PlanStep (current.getD { }) desired step := by
  -- a part of the resolution of names is there if the resolution is and has the part
  have hdns {α : Type} {part : NameResolution → Option α} (hempty : part { } = none)
      (hsome : (part (desired.dns.getD { })).isSome) : (desired.dns.bind part).isSome := by
    cases hdesired : desired.dns with
    | none => simp [hdesired, hempty] at hsome
    | some dns => simpa [hdesired] using hsome
  simp only [plan, planDns, List.mem_append, or_assoc] at h
  rcases h with h | h | h | h | h | h | h | h
  · unfold planCustom at h
    split at h
    · cases h
    · next hcustom =>
      refine .custom (by rw [hcustom]; rfl) ((Draft.isFor_of_mem_rendered h).imp ?_)
      rw [Option.isSome_map]
      exact id
  · exact .searchDomain (hdns rfl (Draft.isFor_of_mem_setting h).1) (Draft.isFor_of_mem_setting h).2
  · exact .nameServers (hdns rfl (Draft.isFor_of_mem_setting h).1) (Draft.isFor_of_mem_setting h).2
  · obtain ⟨devices, hdevices, ⟨slot, device, -, hmem⟩ | ⟨slot, device, hcurrent, -, hmem⟩⟩ :=
      Placement.mem_plan_iff.1 h
    · refine .addressing (by rw [hdevices]; rfl) slot ((Draft.isFor_of_mem_rendered hmem).imp ?_)
      rw [Option.isSome_map]
      exact id
    · refine .addressing (by rw [hdevices]; rfl) slot (List.mem_singleton.1 hmem ▸ .delete ?_)
      rw [hcurrent]
      rfl
  · exact .publicKeys (Draft.isFor_of_mem_setting h).1 (Draft.isFor_of_mem_setting h).2
  · exact .username (Draft.isFor_of_mem_setting h).1 (Draft.isFor_of_mem_setting h).2
  · exact .password (Draft.isFor_of_mem_setting h).1 (Draft.isFor_of_mem_setting h).2
  · exact .upgradePackages (Draft.isFor_of_mem_written h).1 (Draft.isFor_of_mem_written h).2

end CloudInit

/-! ## Network interfaces -/

namespace NetworkInterface

/-- The steps for the network interfaces. -/
inductive PlanStep (current desired : SlotMap .network NetworkInterface) : Step → Prop
  | add {slot : Slot .network} (hcurrent : current.get? slot = none) (value : Value) :
      PlanStep current desired (.set (slot.key stem) value false)
  | change {slot : Slot .network} {before after : NetworkInterface}
      (hcurrent : current.get? slot = some before) (hdesired : desired.get? slot = some after)
      (value : Value) : PlanStep current desired
        (.set (slot.key stem) value (needsReboot before (after.laidOver before)))
  | remove {slot : Slot .network} (hcurrent : (current.get? slot).isSome) :
      PlanStep current desired (.delete (slot.key stem) false)

theorem PlanStep.exists_slot {current desired : SlotMap .network NetworkInterface} {step : Step}
    (h : PlanStep current desired step) {key : String} (hkey : step.key? = some key) :
    ∃ slot : Slot .network, slot.key stem = key := by
  cases h with
  | add hcurrent value => exact ⟨_, Option.some.inj hkey⟩
  | change hcurrent hdesired value => exact ⟨_, Option.some.inj hkey⟩
  | remove hcurrent => exact ⟨_, Option.some.inj hkey⟩

theorem planStep_of_mem {current desired : Option (SlotMap .network NetworkInterface)}
    {step : Step} (h : step ∈ placement.plan stem current desired) :
    ∃ interfaces, desired = some interfaces ∧
      PlanStep (current.getD .empty) interfaces step := by
  obtain ⟨interfaces, hsome, ⟨slot, after, hafter, hmem⟩ | ⟨slot, before, hbefore, -, hmem⟩⟩ :=
    Placement.mem_plan_iff.1 h
  · refine ⟨interfaces, hsome, ?_⟩
    simp only [placement, place] at hmem
    split at hmem
    · next hnone =>
      split at hmem
      · cases hmem
      · exact List.mem_singleton.1 hmem ▸ .add hnone _
    · next before hbefore =>
      split at hmem
      · exact List.mem_singleton.1 hmem ▸ .remove (by rw [hbefore]; rfl)
      · split at hmem
        · cases hmem
        · exact List.mem_singleton.1 hmem ▸ .change hbefore hafter _
  · exact ⟨interfaces, hsome, List.mem_singleton.1 hmem ▸ .remove (by rw [hbefore]; rfl)⟩

end NetworkInterface

/-! ## Drives -/

namespace Disks

/-- The steps for the drives of a bus. -/
inductive PlanStep (guest : Option GuestId) (before after : Disks) (iso : Option IsoImage)
    (bus : Bus) : Step → Prop
  | place {slot : Slot bus.kind} {drive : Drive} {step : Step}
      (hasked : after.asked iso bus slot = some (some drive))
      (hstep : step ∈ (Drive.placement bus guest).place (slot.key bus.stem)
        (before.current bus slot) drive) : PlanStep guest before after iso bus step
  | remove {slot : Slot bus.kind} (hasked : after.asked iso bus slot = some none)
      (hcurrent : (before.current bus slot).isSome) :
      PlanStep guest before after iso bus (.delete (slot.key bus.stem) (!bus.canHotplug))

theorem PlanStep.exists_asked {guest : Option GuestId} {before after : Disks}
    {iso : Option IsoImage} {bus : Bus} {step : Step} (h : PlanStep guest before after iso bus step)
    {key : String} (hkey : step.key? = some key) :
    ∃ slot drive, slot.key bus.stem = key ∧ after.asked iso bus slot = some drive := by
  cases h with
  | @place slot drive _ hasked hstep =>
    have hslot := (Drive.isLocal_placement bus guest).place _ _ _ step hstep key hkey
    exact ⟨slot, drive, hslot.symm, hasked⟩
  | @remove slot hasked hcurrent => exact ⟨slot, none, Option.some.inj hkey, hasked⟩

theorem planStep_of_mem_planOn {guest : Option GuestId} {before after : Disks}
    {iso : Option IsoImage} {bus : Bus} {step : Step}
    (h : step ∈ planOn guest before after iso bus) : PlanStep guest before after iso bus step := by
  rcases planOn_cases guest before after iso bus with
    ⟨drives, hplan, hasked⟩ | ⟨slot, drive, hplan, hasked, -⟩ | ⟨hplan, -⟩
  · rw [hplan] at h
    obtain ⟨_, hsome, ⟨slot, drive, hdrive, hmem⟩ | ⟨slot, drive, hcurrent, hnone, hmem⟩⟩ :=
      Placement.mem_plan_iff.1 h
    · obtain rfl := Option.some.inj hsome
      exact .place ((hasked slot).trans (congrArg some hdrive)) hmem
    · obtain rfl := Option.some.inj hsome
      exact List.mem_singleton.1 hmem ▸ .remove ((hasked slot).trans (congrArg some hnone))
        (Option.isSome_iff_exists.2 ⟨drive, hcurrent⟩)
  · exact .place hasked (hplan ▸ h)
  · rw [hplan] at h
    cases h

theorem planStep_of_mem {guest : Option GuestId} {current desired : Option Disks}
    {iso : Option IsoImage} {step : Step} (h : step ∈ plan guest current desired iso) :
    ∃ bus, PlanStep guest (current.getD { }) (desired.getD { }) iso bus step := by
  rw [plan_eq_flatMap] at h
  obtain ⟨bus, -, hmem⟩ := List.mem_flatMap.1 h
  exact ⟨bus, planStep_of_mem_planOn hmem⟩

end Disks

/-! ## All settings -/

namespace Configuration

/-- The steps for each setting. -/
inductive PlanStep (guest : Option GuestId) (base desired : Configuration) :
    Setting → Step → Prop
  | agent {step : Step} (h : desired.agent.isSome) (hstep : step.IsFor Agent.key true False) :
      PlanStep guest base desired .agent step
  | cloudInit {settings : CloudInit} {step : Step} (h : desired.cloudInit = some settings)
      (hstep : CloudInit.PlanStep (base.cloudInit.getD { }) settings step) :
      PlanStep guest base desired .cloudInit step
  | cpu {cpu : Cpu} {step : Step} (h : desired.cpu = some cpu)
      (hstep : Cpu.PlanStep (base.cpu.getD { }) cpu step) : PlanStep guest base desired .cpu step
  | description {step : Step} (h : desired.description.isSome)
      (hstep : step.IsFor descriptionKey false base.description.isSome) :
      PlanStep guest base desired .description step
  | drive (bus : Bus) {step : Step}
      (hstep : Disks.PlanStep guest (base.disks.getD { }) (desired.disks.getD { }) desired.iso bus
        step) : PlanStep guest base desired .disks step
  | memory {memory : Memory} {step : Step} (h : desired.memory = some memory)
      (hstep : Memory.PlanStep (base.memory.getD { }) memory step) :
      PlanStep guest base desired .memory step
  | name {step : Step} (h : desired.name.isSome) (hstep : step.IsFor nameKey false False) :
      PlanStep guest base desired .name step
  | network {interfaces : SlotMap .network NetworkInterface} {step : Step}
      (h : desired.networks = some interfaces)
      (hstep : NetworkInterface.PlanStep (base.networks.getD .empty) interfaces step) :
      PlanStep guest base desired .networks step
  | onBoot {step : Step} (h : desired.onBoot.isSome) (hstep : step.IsFor onBootKey false False) :
      PlanStep guest base desired .onBoot step
  | pciDevice {step : Step} (h : desired.pciDevices.isSome) (slot : Slot .pci)
      (hstep : step.IsFor (slot.key PciDevice.stem) true
        ((base.pciDevices.getD .empty).get? slot).isSome) :
      PlanStep guest base desired .pciDevices step
  /-- A new guest is placed in the pool. -/
  | pool {pool : PoolName} (h : desired.pool = some pool) (hguest : guest = none) :
      PlanStep guest base desired .pool (.set poolKey (.text pool.text) false)
  /-- The pool of a guest that exists is passed over. -/
  | ignorePool {pool : PoolName} (h : desired.pool = some pool) (hguest : guest.isSome) :
      PlanStep guest base desired .pool (.ignorePool pool)
  | isProtected {step : Step} (h : desired.isProtected.isSome)
      (hstep : step.IsFor protectionKey false False) : PlanStep guest base desired .isProtected step
  | serial {step : Step} (h : desired.serials.isSome) (slot : Slot .serial)
      (hstep : step.IsFor (slot.key SerialPort.stem) true
        ((base.serials.getD .empty).get? slot).isSome) : PlanStep guest base desired .serials step
  | tags {step : Step} (h : desired.tags.isSome)
      (hstep : step.IsFor Tags.key false base.tags.isSome) : PlanStep guest base desired .tags step
  | tpm {step : Step} (h : desired.tpm.isSome) (hstep : step.IsFor Tpm.key true base.tpm.isSome) :
      PlanStep guest base desired .tpm step
  | usb {step : Step} (h : desired.usbs.isSome) (slot : Slot .usb)
      (hstep : step.IsFor (slot.key UsbDevice.stem) false
        ((base.usbs.getD .empty).get? slot).isSome) : PlanStep guest base desired .usbs step

variable {version : Version} {guest : Option GuestId} {base desired : Configuration} {step : Step}

/-- There are no other steps for a setting. -/
theorem planStep_of_mem_planOnly {s : Setting}
    (h : step ∈ planOnly version guest base desired s) : PlanStep guest base desired s step := by
  rw [planOnly_eq] at h
  cases s with
  | agent =>
    obtain ⟨agent, hagent, hmem⟩ := Draft.exists_of_mem_elim h
    exact .agent (hagent ▸ rfl) (Agent.isFor_of_mem_plan hmem)
  | cloudInit =>
    obtain ⟨settings, hsettings, hmem⟩ := Draft.exists_of_mem_elim h
    exact .cloudInit hsettings (CloudInit.planStep_of_mem hmem)
  | cpu =>
    obtain ⟨cpu, hcpu, hmem⟩ := Draft.exists_of_mem_elim h
    exact .cpu hcpu (Cpu.planStep_of_mem hmem)
  | description =>
    exact .description (Draft.isFor_of_mem_setting h).1 (Draft.isFor_of_mem_setting h).2
  | disks =>
    obtain ⟨bus, hstep⟩ := Disks.planStep_of_mem h
    exact .drive bus hstep
  | memory =>
    obtain ⟨memory, hmemory, hmem⟩ := Draft.exists_of_mem_elim h
    exact .memory hmemory (Memory.planStep_of_mem hmem)
  | name => exact .name (Draft.isFor_of_mem_written h).1 (Draft.isFor_of_mem_written h).2
  | networks =>
    obtain ⟨interfaces, hsome, hstep⟩ := NetworkInterface.planStep_of_mem h
    exact .network hsome hstep
  | onBoot => exact .onBoot (Draft.isFor_of_mem_written h).1 (Draft.isFor_of_mem_written h).2
  | pciDevices =>
    obtain ⟨hsome, slot, hstep⟩ := Placement.isFor_of_mem_byText h
    exact .pciDevice hsome slot hstep
  | pool =>
    dsimp only at h
    unfold planPool at h
    split at h
    · cases h
    · next pool hpool =>
      split at h
      · next hguest =>
        exact List.mem_singleton.1 h ▸ .pool hpool (Option.isNone_iff_eq_none.1 hguest)
      · next hguest =>
        exact List.mem_singleton.1 h ▸
          .ignorePool hpool (Option.isSome_iff_ne_none.2 (mt Option.isNone_iff_eq_none.2 hguest))
  | isProtected =>
    exact .isProtected (Draft.isFor_of_mem_written h).1 (Draft.isFor_of_mem_written h).2
  | serials =>
    obtain ⟨hsome, slot, hstep⟩ := Placement.isFor_of_mem_byText h
    exact .serial hsome slot hstep
  | tags => exact .tags (Tags.isFor_of_mem_plan h).1 (Tags.isFor_of_mem_plan h).2
  | tpm =>
    obtain ⟨tpm, htpm, hmem⟩ := Draft.exists_of_mem_elim h
    exact .tpm (htpm ▸ rfl) (Tpm.isFor_of_mem_plan hmem)
  | usbs =>
    obtain ⟨hsome, slot, hstep⟩ := Placement.isFor_of_mem_byText h
    exact .usb hsome slot hstep

theorem mem_plan_iff :
    step ∈ desired.plan version guest (some base) ↔
      ∃ s, step ∈ planOnly version guest base desired s := by
  rw [plan_eq_flatMap, List.mem_flatMap]
  exact exists_congr fun s ↦ and_iff_right s.mem_all

/-- Every step of a plan is one for some setting. -/
theorem exists_planStep_of_mem_plan (h : step ∈ desired.plan version guest (some base)) :
    ∃ s, PlanStep guest base desired s step :=
  (mem_plan_iff.1 h).imp fun _ ↦ planStep_of_mem_planOnly

/-- **A step of a plan belongs to the setting of its key.** -/
theorem mem_planOnly_of_owner? {key : String} {s : Setting}
    (h : step ∈ desired.plan version guest (some base)) (hkey : step.key? = some key)
    (hs : Setting.owner? key = some s) : step ∈ planOnly version guest base desired s := by
  obtain ⟨t, ht⟩ := mem_plan_iff.1 h
  have howner := touchesOnly_planOnly version guest base desired t step ht key hkey
  rwa [Option.some.inj (hs.symm.trans howner)]

theorem planStep_of_owner? {key : String} {s : Setting}
    (h : step ∈ desired.plan version guest (some base)) (hkey : step.key? = some key)
    (hs : Setting.owner? key = some s) : PlanStep guest base desired s step :=
  planStep_of_mem_planOnly (mem_planOnly_of_owner? h hkey hs)

end Configuration

end GuestConfig
