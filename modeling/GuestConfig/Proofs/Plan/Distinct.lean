import GuestConfig.Proofs.Disk.Plan
import GuestConfig.Proofs.Plan.Steps

/-!
# Every key is planned once

A plan could set a key and delete it again, and then what happens would depend on the order in which
the API takes the parts of a request.  No plan does.  Settings have no keys in common, a setting
with several parts has a key for each, and a family has a step for every slot at most.

## What is here

* `Draft.nodup_keys_flatMap` — drafts about different keys together.
* `NetworkInterface.isSingle_placement`, `Drive.isSingle_placement` and so on — placements take one
  step for a device.
* `Configuration.nodup_keys_planOnly` — the keys of one setting.
* `Configuration.nodup_keys_plan` — **no two steps of a plan are about the same key.**
-/

set_option autoImplicit false

namespace GuestConfig

open Setting (keyName keyName_of_ofKey?)

/-! ## Drafts about different keys -/

namespace Draft

theorem nodup_keys_of_sublist {draft : Draft} {key : String} (h : draft.keys.Sublist [key]) :
    draft.keys.Nodup :=
  (List.nodup_singleton key).sublist h

theorem nodup_keys_setting {α : Type} [DecidableEq α] (key : String) (render : α → Option Value)
    (reboot : Bool) (current desired : Option α) :
    (setting key render reboot current desired).keys.Nodup :=
  nodup_keys_of_sublist (keys_setting_sublist key render reboot current desired)

theorem nodup_keys_elim {α : Type} (setting : Option α) {plan : α → Draft}
    (h : ∀ a, (plan a).keys.Nodup) : (keys (setting.elim [] plan)).Nodup := by
  cases setting with
  | none => exact List.nodup_nil
  | some a => exact h a

/-- Keys that come once, in a part about other keys than what stands before and after it. -/
theorem nodup_keys_insert {p : String → Prop} {before part after : Draft} {others : List String}
    (hsublist : (before.keys ++ after.keys).Sublist others) (hothers : others.Nodup)
    (hpart : part.keys.Nodup) (hp : part.TouchesOnly p) (hnot : ∀ key ∈ others, ¬p key) :
    (keys (before ++ part ++ after)).Nodup := by
  have hperm : (before.keys ++ part.keys ++ after.keys).Perm
      (part.keys ++ (before.keys ++ after.keys)) :=
    (List.perm_append_comm.append_right _).trans (List.append_assoc _ _ _ ▸ List.Perm.refl _)
  rw [keys_append, keys_append, hperm.nodup_iff]
  refine List.nodup_append.2
    ⟨hpart, hothers.sublist hsublist, fun key hkey other hother heq ↦ ?_⟩
  exact hnot other (hsublist.subset hother) (heq ▸ hp.of_mem_keys hkey)

/-- Keys that come once, in parts about different keys each. -/
theorem nodup_keys_flatMap {α : Type} {items : List α} {f : α → Draft} {p : α → String → Prop}
    (hitems : items.Nodup) (hf : ∀ a ∈ items, (f a).keys.Nodup)
    (hp : ∀ a ∈ items, (f a).TouchesOnly (p a))
    (hother : ∀ a b key, a ≠ b → p a key → ¬p b key) : (keys (items.flatMap f)).Nodup := by
  rw [keys_flatMap, List.nodup_flatMap]
  refine ⟨hf, hitems.imp_of_mem fun {a b} ha hb hne key hkeyA hkeyB ↦ ?_⟩
  exact hother a b key hne ((hp a ha).of_mem_keys hkeyA) ((hp b hb).of_mem_keys hkeyB)

end Draft

/-! ## Placements -/

theorem Placement.nodup_keys_plan_byText {α : Type} {kind : SlotKind} (text : α → String)
    (plugReboot changeReboot : Bool) (stem : String) (current desired : Option (SlotMap kind α)) :
    (Draft.keys ((byText text plugReboot changeReboot).plan stem current desired)).Nodup :=
  nodup_keys_plan (isSingle_byText text plugReboot changeReboot) _ _

theorem NetworkInterface.isSingle_placement : NetworkInterface.placement.IsSingle where
  place key existing device := by
    simp only [placement, place]
    repeat' split
    all_goals simp [Draft.keys, Step.key?]
  remove key device := by simp [placement, Draft.keys, Step.key?]

theorem CloudInit.isSingle_addressingPlacement : CloudInit.addressingPlacement.IsSingle where
  place key existing device := Draft.keys_rendered_sublist _ _ _
  remove key device := by simp [addressingPlacement, Draft.keys, Step.key?]

theorem Drive.isSingle_placement (bus : Bus) (guest : Option GuestId) :
    (Drive.placement bus guest).IsSingle where
  place key existing device := by
    rcases place_cases bus guest key existing device with h | ⟨text, reboot, h⟩ | h
    all_goals simp [h, Draft.keys, Step.key?]
  remove key device := by simp [placement, Draft.keys, Step.key?]

/-! ## Settings -/

theorem Agent.keys_plan_sublist (current : Option Agent) (desired : Agent) :
    (Draft.keys (plan current desired)).Sublist [key] := by
  simp only [plan]
  repeat' split
  all_goals simp [Draft.keys, Step.key?]

theorem Tags.keys_plan_sublist (current desired : Option Tags) :
    (Draft.keys (plan current desired)).Sublist [key] := by
  unfold plan
  repeat' split
  all_goals simp [Draft.keys, Step.key?]

theorem Tpm.keys_plan_sublist (current : Option Tpm) (desired : Tpm) :
    (Draft.keys (plan current desired)).Sublist [key] := by
  unfold plan
  repeat' split
  all_goals simp [Draft.keys, Step.key?]

theorem Memory.keys_plan_sublist (current : Option Memory) (desired : Memory) :
    (Draft.keys (plan current desired)).Sublist [capacityKey, minimumKey, sharesKey] := by
  simp only [plan, Draft.keys_append]
  refine ((Draft.keys_setting_sublist _ _ _ _ _).append
    (Draft.keys_setting_sublist _ _ _ _ _)).append ?_
  split
  · exact Draft.keys_setting_sublist _ _ _ _ _
  · split <;> simp [Draft.keys, Step.key?]

/-- **Every key of the memory is planned once.** -/
theorem Memory.nodup_keys_plan (current : Option Memory) (desired : Memory) :
    (Draft.keys (plan current desired)).Nodup :=
  (by decide +kernel : List.Nodup [capacityKey, minimumKey, sharesKey]).sublist
    (keys_plan_sublist current desired)

theorem Cpu.keys_planModel_sublist (version : Version) (base desired : Cpu) :
    (Draft.keys (planModel version base desired)).Sublist [modelKey] := by
  have htext (model : Option String) (flags : Option CpuFlags) :
      (Draft.keys (planModelText version base model flags)).Sublist [modelKey] := by
    simp only [planModelText]
    repeat' split
    all_goals simp [Draft.keys, Step.key?]
  unfold planModel
  repeat' split
  all_goals first | exact htext _ _ | simp [Draft.keys, Step.key?]

theorem Cpu.keys_plan_sublist (version : Version) (current : Option Cpu) (desired : Cpu) :
    (Draft.keys (plan version current desired)).Sublist
      [coresKey, socketsKey, numaKey, limitKey, unitsKey, virtualCoresKey, affinityKey,
        modelKey] := by
  have haffinity (current desired : Option Affinity) :
      (Draft.keys (planAffinity current desired)).Sublist [affinityKey] := by
    unfold planAffinity
    repeat' split
    all_goals simp [Draft.keys, Step.key?]
  simp only [plan, Draft.keys_append]
  exact (((((((Draft.keys_setting_sublist _ _ _ _ _).append
    (Draft.keys_setting_sublist _ _ _ _ _)).append (Draft.keys_setting_sublist _ _ _ _ _)).append
    (Draft.keys_setting_sublist _ _ _ _ _)).append (Draft.keys_setting_sublist _ _ _ _ _)).append
    (Draft.keys_setting_sublist _ _ _ _ _)).append (haffinity _ _)).append
    (keys_planModel_sublist _ _ _)

/-- **Every key of the CPU is planned once.** -/
theorem Cpu.nodup_keys_plan (version : Version) (current : Option Cpu) (desired : Cpu) :
    (Draft.keys (plan version current desired)).Nodup :=
  (by decide +kernel : List.Nodup [coresKey, socketsKey, numaKey, limitKey, unitsKey,
    virtualCoresKey, affinityKey, modelKey]).sublist (keys_plan_sublist version current desired)

namespace CloudInit

/-- The keys of the settings other than the addresses. -/
def singleKeys : List String :=
  [customKey, searchDomainKey, nameServersKey, PublicKeys.key, usernameKey, passwordKey, upgradeKey]

/-- **Every key of the cloud-init settings is planned once.** -/
theorem nodup_keys_plan (current : Option CloudInit) (desired : CloudInit) :
    (Draft.keys (plan current desired)).Nodup := by
  have hcustom (current desired : Option CustomSections) :
      (Draft.keys (planCustom current desired)).Sublist [customKey] := by
    unfold planCustom
    split
    · exact List.nil_sublist _
    · exact Draft.keys_rendered_sublist _ _ _
  -- the addresses stand between the other settings
  rw [plan, List.append_assoc, List.append_assoc, List.append_assoc]
  refine Draft.nodup_keys_insert ?_ (by decide +kernel : singleKeys.Nodup)
    (Placement.nodup_keys_plan isSingle_addressingPlacement _ _)
    (Placement.touchesOnly_plan isLocal_addressingPlacement _ _) ?_
  · simp only [planDns, Draft.keys_append]
    exact ((hcustom _ _).append ((Draft.keys_setting_sublist _ _ _ _ _).append
      (Draft.keys_setting_sublist _ _ _ _ _))).append
      ((Draft.keys_setting_sublist _ _ _ _ _).append ((Draft.keys_setting_sublist _ _ _ _ _).append
      ((Draft.keys_setting_sublist _ _ _ _ _).append (Draft.keys_setting_sublist _ _ _ _ _))))
  · -- in front of its digits the key of an address has a name of its own
    have hname : ∀ key ∈ singleKeys, keyName key ≠ addressingStem := by decide +kernel
    rintro key hkey ⟨slot, rfl⟩
    exact hname _ hkey (keyName_of_ofKey? (by decide) (Slot.ofKey?_key addressingStem slot))

end CloudInit

/-- **Every key of the drives is planned once.** -/
theorem Disks.nodup_keys_plan (guest : Option GuestId) (current desired : Option Disks)
    (iso : Option IsoImage) : (Draft.keys (plan guest current desired iso)).Nodup := by
  rw [plan_eq_flatMap]
  refine Draft.nodup_keys_flatMap (by decide) (fun bus _ ↦ ?_)
    (fun bus _ ↦ touchesOnly_planOn guest _ _ iso bus) fun bus other key hne hkey hkey' ↦ ?_
  · rcases planOn_cases guest (current.getD { }) (desired.getD { }) iso bus with
      ⟨drives, hplan, -⟩ | ⟨slot, drive, hplan, -⟩ | ⟨hplan, -⟩
    · rw [hplan]
      exact Placement.nodup_keys_plan (Drive.isSingle_placement bus guest) _ _
    · rw [hplan]
      exact Draft.nodup_keys_of_sublist ((Drive.isSingle_placement bus guest).place _ _ _)
    · rw [hplan]
      exact List.nodup_nil
  · obtain ⟨slot, rfl⟩ := hkey
    obtain ⟨slot', heq⟩ := hkey'
    exact Bus.key_ne hne slot slot' heq

/-! ## All settings -/

namespace Configuration

/-- **Every key of a setting is planned once.** -/
theorem nodup_keys_planOnly (version : Version) (guest : Option GuestId)
    (base desired : Configuration) (s : Setting) :
    (planOnly version guest base desired s).keys.Nodup := by
  rw [planOnly_eq]
  cases s with
  | agent =>
    exact Draft.nodup_keys_elim _ fun _ ↦ Draft.nodup_keys_of_sublist (Agent.keys_plan_sublist _ _)
  | cloudInit => exact Draft.nodup_keys_elim _ fun _ ↦ CloudInit.nodup_keys_plan _ _
  | cpu => exact Draft.nodup_keys_elim _ fun _ ↦ Cpu.nodup_keys_plan _ _ _
  | disks => exact Disks.nodup_keys_plan _ _ _ _
  | memory => exact Draft.nodup_keys_elim _ fun _ ↦ Memory.nodup_keys_plan _ _
  | description | name | onBoot | isProtected => exact Draft.nodup_keys_setting _ _ _ _ _
  | networks => exact Placement.nodup_keys_plan NetworkInterface.isSingle_placement _ _
  | pciDevices | serials | usbs => exact Placement.nodup_keys_plan_byText _ _ _ _ _ _
  | pool =>
    dsimp only
    unfold planPool
    repeat' split
    · exact List.nodup_nil
    · exact List.nodup_singleton _
    · exact List.nodup_nil
  | tags => exact Draft.nodup_keys_of_sublist (Tags.keys_plan_sublist _ _)
  | tpm =>
    exact Draft.nodup_keys_elim _ fun _ ↦ Draft.nodup_keys_of_sublist (Tpm.keys_plan_sublist _ _)

/-- **No two steps of a plan are about the same key.** -/
theorem nodup_keys_plan (version : Version) (guest : Option GuestId)
    (base desired : Configuration) :
    (desired.plan version guest (some base)).keys.Nodup := by
  rw [plan_eq_flatMap]
  refine Draft.nodup_keys_flatMap (by decide)
    (fun s _ ↦ nodup_keys_planOnly version guest base desired s)
    (fun s _ ↦ touchesOnly_planOnly version guest base desired s) fun s t key hne hs ht ↦ ?_
  exact hne (Option.some.inj (hs.symm.trans ht))

end Configuration

end GuestConfig
