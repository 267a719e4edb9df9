import GuestConfig.Proofs.Plan.Family
import Mathlib.Data.List.Induction
import Mathlib.Data.List.Nodup

/-!
# From a change back to its steps

A change lists keys to set and keys to delete and says whether a reboot is needed; it no longer says
which step is behind what.  All of this can be recovered from the draft: a key is deleted exactly if
some step deletes it, the reboot is needed exactly if some step needs it, and a key that is set was
set by some step.  Where no two steps are about the same key, as is the case for every plan, the
value under a key is that of the only step about it.

## What is here

* `Step.value?` and `Step.reboots` — what a step writes, and whether it needs a reboot.
* `Draft.mem_deleted_change_iff`, `Draft.exists_set_of_get?_change`, `Draft.reboot_change_iff` — a
  change, in terms of its steps.
* `Draft.keys` — the keys that the steps are about, and `Draft.get?_change_eq_some_iff`: **the value
  under a key is that of the only step about it, if no two are about the same key.**
* `Draft.get?_change_eq_some_iff_effect`, `Draft.mem_deleted_change_iff_effect` — a change, in terms
  of what the steps do to a key.
* `Draft.mem_setting_iff`, `Draft.mem_rendered_iff`, `Placement.mem_plan_iff` — the steps for a
  setting and for a family.
* `Slot.nodup_map_key` — every slot has a key of its own, and `Placement.nodup_keys_plan`: no two
  steps for a family are about the same key.
-/

set_option autoImplicit false

namespace GuestConfig

/-! ## Steps -/

namespace Step

/-- The value that a step gives to its key; a key that is deleted has none. -/
def value? : Step → Option Value
  | set _ value _ => some value
  | delete _ _ => none
  | ignorePool _ => none
  | refuse _ => none

/-- Whether a running guest has to be rebooted to see a step. -/
def reboots : Step → Bool
  | set _ _ reboot => reboot
  | delete _ reboot => reboot
  | ignorePool _ => false
  | refuse _ => false

end Step

/-! ## What a change says about its steps -/

namespace Draft

theorem change_concat (draft : Draft) (step : Step) :
    change (draft ++ [step]) = draft.change.record step :=
  List.foldl_append

/-- **A key is deleted exactly if a step deletes it.** -/
theorem mem_deleted_change_iff {draft : Draft} {key : String} :
    key ∈ draft.change.deleted ↔ ∃ reboot, Step.delete key reboot ∈ draft := by
  induction draft using List.reverseRecOn with
  | nil => simp [change, Change.empty]
  | append_singleton draft step ih =>
    rw [change_concat]
    cases step with
    | delete key' reboot =>
      have hrecord : key ∈ ((change draft).record (.delete key' reboot)).deleted ↔
          key ∈ (change draft).deleted ∨ key = key' := by
        simp only [Change.record]
        split
        · next hmem => exact ⟨.inl, fun h ↦ h.elim id fun e ↦ e ▸ hmem⟩
        · simp
      simp only [hrecord, ih, List.mem_append, List.mem_singleton, Step.delete.injEq, exists_or,
        exists_and_left, exists_eq, and_true]
    | set => simp [Change.record, ih]
    | ignorePool => simp [Change.record, ih]
    | refuse => simp [Change.record, ih]

/-- A key is listed for deletion once. -/
theorem nodup_deleted_change (draft : Draft) : draft.change.deleted.Nodup := by
  induction draft using List.reverseRecOn with
  | nil => exact List.nodup_nil
  | append_singleton draft step ih =>
    rw [change_concat]
    cases step with
    | delete key reboot =>
      simp only [Change.record]
      split
      · exact ih
      · next hmem =>
        refine List.nodup_append.2 ⟨ih, List.nodup_singleton key, fun other hother key' hkey' ↦ ?_⟩
        rw [List.mem_singleton.1 hkey']
        exact fun e ↦ hmem (e ▸ hother)
    | set => exact ih
    | ignorePool => exact ih
    | refuse => exact ih

/-- **A reboot is needed exactly if a step needs it.** -/
theorem reboot_change_iff {draft : Draft} :
    draft.change.reboot = true ↔ ∃ step ∈ draft, step.reboots = true := by
  induction draft using List.reverseRecOn with
  | nil => simp [change, Change.empty]
  | append_singleton draft step ih =>
    have hrecord :
        ((change draft).record step).reboot = ((change draft).reboot || step.reboots) := by
      cases step <;> simp [Change.record, Step.reboots]
    simp only [change_concat, hrecord, Bool.or_eq_true, ih, List.mem_append, List.mem_singleton,
      or_and_right, exists_or, exists_eq_left]

/-- The value under a key is the last one that a step gives it. -/
theorem get?_change (draft : Draft) (key : String) :
    draft.change.params.get? key =
      ((draft.filter fun step ↦ step.key? = some key).filterMap Step.value?).getLast? := by
  induction draft using List.reverseRecOn with
  | nil => rfl
  | append_singleton draft step ih =>
    rw [change_concat, List.filter_append, List.filterMap_append]
    cases step with
    | set key' value reboot =>
      by_cases h : key' = key
      · subst h
        simp [Change.record, Step.key?, Step.value?]
      · rw [Change.record, SortedMap.get?_insert_of_ne _ _ (Ne.symm h), ih]
        simp [Step.key?, h]
    | delete key' reboot =>
      have hvalue : (([Step.delete key' reboot].filter fun step ↦
          step.key? = some key).filterMap Step.value?) = [] := by
        by_cases h : key' = key <;> simp [Step.key?, Step.value?, h]
      rw [hvalue, List.append_nil]
      exact ih
    | ignorePool pool => simpa [Change.record, Step.key?] using ih
    | refuse cause => simpa [Change.record, Step.key?] using ih

theorem exists_set_of_get?_change {draft : Draft} {key : String} {value : Value}
    (h : draft.change.params.get? key = some value) :
    ∃ reboot, Step.set key value reboot ∈ draft := by
  rw [get?_change] at h
  obtain ⟨step, hstep, hvalue⟩ := List.mem_filterMap.1 (List.mem_of_getLast? h)
  obtain ⟨hmem, hkey⟩ := List.mem_filter.1 hstep
  cases step with
  | set key' value' reboot =>
    obtain rfl : key' = key := by simpa [Step.key?] using hkey
    obtain rfl : value' = value := by simpa [Step.value?] using hvalue
    exact ⟨reboot, hmem⟩
  | delete => cases hvalue
  | ignorePool => cases hvalue
  | refuse => cases hvalue

theorem isSome_get?_change {draft : Draft} {key : String} {value : Value} {reboot : Bool}
    (h : Step.set key value reboot ∈ draft) : (draft.change.params.get? key).isSome := by
  have hmem : value ∈ (draft.filter fun step ↦ step.key? = some key).filterMap Step.value? :=
    List.mem_filterMap.2 ⟨_, List.mem_filter.2 ⟨h, by simp [Step.key?]⟩, rfl⟩
  rw [get?_change, List.getLast?_isSome]
  exact List.ne_nil_of_mem hmem

/-! ## The keys of a draft, one by one -/

/-- The keys that the steps of a draft are about, in their order. -/
def keys (draft : Draft) : List String :=
  draft.filterMap Step.key?

@[simp] theorem keys_append (first second : Draft) :
    keys (first ++ second) = first.keys ++ second.keys :=
  List.filterMap_append

theorem keys_flatMap {α : Type} (items : List α) (f : α → Draft) :
    keys (items.flatMap f) = items.flatMap fun a ↦ (f a).keys := by
  induction items with
  | nil => rfl
  | cons a rest ih => rw [List.flatMap_cons, List.flatMap_cons, keys_append, ih]

theorem mem_keys_iff {draft : Draft} {key : String} :
    key ∈ draft.keys ↔ ∃ step ∈ draft, step.key? = some key :=
  List.mem_filterMap

theorem TouchesOnly.of_mem_keys {p : String → Prop} {draft : Draft} (h : TouchesOnly p draft)
    {key : String} (hkey : key ∈ draft.keys) : p key := by
  obtain ⟨step, hstep, hsome⟩ := mem_keys_iff.1 hkey
  exact h step hstep key hsome

/-- If no two steps are about the same key, a step is known by its key. -/
theorem eq_of_key_eq {draft : Draft} (h : draft.keys.Nodup) {a b : Step} (ha : a ∈ draft)
    (hb : b ∈ draft) {key : String} (hkeyA : a.key? = some key) (hkeyB : b.key? = some key) :
    a = b := by
  induction draft with
  | nil => cases ha
  | cons step rest ih =>
    -- the key of the first step does not come again
    have hfirst {c : Step} (hc : c ∈ rest) (hkey : step.key? = some key) :
        c.key? ≠ some key := by
      rw [keys, List.filterMap_cons_some hkey] at h
      exact fun hkeyC ↦ (List.nodup_cons.1 h).1 (mem_keys_iff.2 ⟨c, hc, hkeyC⟩)
    have hrest : (keys rest).Nodup := h.sublist ((List.sublist_cons_self step rest).filterMap _)
    rcases List.mem_cons.1 ha with rfl | harest
    · rcases List.mem_cons.1 hb with rfl | hbrest
      · rfl
      · exact absurd hkeyB (hfirst hbrest hkeyA)
    · rcases List.mem_cons.1 hb with rfl | hbrest
      · exact absurd hkeyA (hfirst harest hkeyB)
      · exact ih hrest harest hbrest

/-- **A key that is set was set by the only step about it**, if no two steps are about the same
key. -/
theorem get?_change_eq_some_iff {draft : Draft} (h : draft.keys.Nodup) {key : String}
    {value : Value} :
    draft.change.params.get? key = some value ↔
      ∃ reboot, Step.set key value reboot ∈ draft := by
  refine ⟨exists_set_of_get?_change, fun ⟨reboot, hmem⟩ ↦ ?_⟩
  obtain ⟨value', hvalue'⟩ := Option.isSome_iff_exists.1 (isSome_get?_change hmem)
  obtain ⟨reboot', hmem'⟩ := exists_set_of_get?_change hvalue'
  obtain ⟨-, rfl, -⟩ := Step.set.inj (eq_of_key_eq h hmem hmem' rfl rfl)
  exact hvalue'

/-- No key is both set and deleted, if no two steps are about the same key. -/
theorem get?_change_of_mem_deleted {draft : Draft} (h : draft.keys.Nodup) {key : String}
    (hkey : key ∈ draft.change.deleted) : draft.change.params.get? key = none := by
  cases hget : draft.change.params.get? key with
  | none => rfl
  | some value =>
    obtain ⟨reboot, hset⟩ := exists_set_of_get?_change hget
    obtain ⟨reboot', hdelete⟩ := mem_deleted_change_iff.1 hkey
    cases eq_of_key_eq h hset hdelete rfl rfl

theorem get?_change_eq_some_iff_effect {draft : Draft} (h : draft.keys.Nodup) {key : String}
    {value : Value} :
    draft.change.params.get? key = some value ↔ draft.effect key = .set value := by
  rw [← effect_change, Change.effect]
  split
  · next hmem =>
    simp [get?_change_of_mem_deleted h hmem]
  · cases draft.change.params.get? key <;> simp

theorem mem_deleted_change_iff_effect {draft : Draft} {key : String} :
    key ∈ draft.change.deleted ↔ draft.effect key = .delete := by
  rw [← effect_change, Change.effect]
  split
  · next hmem => simp [hmem]
  · next hmem => cases draft.change.params.get? key <;> simp [hmem]

/-! ## The steps for one setting -/

/-- **The steps for a setting that is compared by its value.** -/
theorem mem_setting_iff {α : Type} [DecidableEq α] {key : String} {render : α → Option Value}
    {reboot : Bool} {current desired : Option α} {step : Step} :
    step ∈ setting key render reboot current desired ↔
      ∃ a, desired = some a ∧ current ≠ some a ∧
        ((∃ v, render a = some v ∧ step = .set key v reboot) ∨
          (render a = none ∧ current.isSome ∧ step = .delete key reboot)) := by
  cases desired with
  | none => simp
  | some a =>
    by_cases hcurrent : current = some a
    · simp [setting, hcurrent]
    · cases hrender : render a with
      | some v => simp [setting, hcurrent, hrender]
      | none => cases current <;> simp_all [setting]

/-- **The steps for a setting that is compared by its text.** -/
theorem mem_rendered_iff {key : String} {before : Option String} {after : String} {step : Step} :
    step ∈ rendered key before after ↔
      before.filter (· ≠ "") ≠ some after ∧
        ((after ≠ "" ∧ step = .set key (.text after) false) ∨
          (after = "" ∧ (before.filter (· ≠ "")).isSome ∧ step = .delete key false)) := by
  simp only [rendered]
  generalize before.filter (· ≠ "") = before
  by_cases hsame : before = some after
  · simp [hsame]
  · by_cases hempty : after = ""
    · cases before <;> simp_all
    · simp [hsame, hempty]

theorem keys_setting_sublist {α : Type} [DecidableEq α] (key : String) (render : α → Option Value)
    (reboot : Bool) (current desired : Option α) :
    (setting key render reboot current desired).keys.Sublist [key] := by
  unfold setting
  repeat' split
  all_goals simp [keys, Step.key?]

theorem keys_rendered_sublist (key : String) (before : Option String) (after : String) :
    (rendered key before after).keys.Sublist [key] := by
  simp only [rendered]
  repeat' split
  all_goals simp [keys, Step.key?]

theorem keys_flatMap_sublist {α : Type} {items : List α} {f : α → Draft} {key : α → String}
    (h : ∀ a, (f a).keys.Sublist [key a]) :
    (keys (items.flatMap f)).Sublist (items.map key) := by
  induction items with
  | nil => exact List.Sublist.refl _
  | cons a rest ih =>
    rw [List.flatMap_cons, keys_append, List.map_cons]
    exact (h a).append ih

end Draft

/-! ## The steps for a family -/

theorem Slot.nodup_map_key {α : Type} {kind : SlotKind} (stem : String)
    (devices : SlotMap kind α) : (devices.toList.map fun e ↦ e.1.key stem).Nodup := by
  have hne (a b : Slot kind × α) (hlt : a.1 < b.1) : a.1.key stem ≠ b.1.key stem :=
    fun heq ↦ StrictOrder.ne_of_lt hlt (Slot.key_inj heq)
  rw [List.Nodup, List.pairwise_map]
  exact devices.sorted.imp (hne _ _)

namespace Placement

variable {α : Type} {kind : SlotKind} {p : Placement α} {stem : String}

/-- A placement that takes at most one step for a device, and takes it under the key that it is
given. -/
structure IsSingle (p : Placement α) : Prop where
  /-- Placing a device. -/
  place (key : String) (existing : Option α) (device : α) :
    (p.place key existing device).keys.Sublist [key]
  /-- Removing a device. -/
  remove (key : String) (device : α) : (p.remove key device).keys.Sublist [key]

theorem isSingle_byText (text : α → String) (plugReboot changeReboot : Bool) :
    (byText text plugReboot changeReboot).IsSingle where
  place key existing device := by
    simp only [byText]
    repeat' split
    all_goals simp [Draft.keys, Step.key?]
  remove key device := by simp [byText, Draft.keys, Step.key?]

/-- **The steps for a family** place the desired devices and remove the others. -/
theorem mem_plan_iff {current desired : Option (SlotMap kind α)} {step : Step} :
    step ∈ p.plan stem current desired ↔
      ∃ devices, desired = some devices ∧
        ((∃ slot device, devices.get? slot = some device ∧
            step ∈ p.place (slot.key stem) ((current.getD .empty).get? slot) device) ∨
          (∃ slot device, (current.getD .empty).get? slot = some device ∧
            devices.get? slot = none ∧ step ∈ p.remove (slot.key stem) device)) := by
  cases desired with
  | none => simp
  | some devices =>
    simp only [plan, placeAll, removeOthers, List.mem_append, List.mem_flatMap, Prod.exists,
      SortedMap.mem_toList_iff, Option.some.injEq, exists_eq_left']
    refine or_congr Iff.rfl (exists_congr fun slot ↦ exists_congr fun device ↦
      and_congr_right fun _ ↦ ?_)
    cases hdesired : devices.get? slot <;> simp [SortedMap.contains, hdesired]

/-- **No two steps for a family are about the same key.** -/
theorem nodup_keys_plan (hp : p.IsSingle) (current desired : Option (SlotMap kind α)) :
    (p.plan stem current desired).keys.Nodup := by
  cases desired with
  | none => exact List.nodup_nil
  | some devices =>
    have hplace : (p.placeAll stem (current.getD .empty) devices).keys.Sublist
        (devices.toList.map fun e ↦ e.1.key stem) :=
      Draft.keys_flatMap_sublist fun e ↦ hp.place _ _ _
    have hremove : (p.removeOthers stem (current.getD .empty) devices).keys.Sublist
        ((current.getD .empty).toList.map fun e ↦ e.1.key stem) :=
      Draft.keys_flatMap_sublist fun e ↦ by
        dsimp only
        split
        · exact List.nil_sublist _
        · exact hp.remove _ _
    have hplaceNodup : (p.placeAll stem (current.getD .empty) devices).keys.Nodup :=
      hplace.nodup (Slot.nodup_map_key stem devices)
    have hremoveNodup : (p.removeOthers stem (current.getD .empty) devices).keys.Nodup :=
      hremove.nodup (Slot.nodup_map_key stem _)
    rw [plan, Draft.keys_append, List.nodup_append]
    refine ⟨hplaceNodup, hremoveNodup, fun key hplaced _ hremoved heq ↦ ?_⟩
    -- a device is placed into a desired slot and removed from another one
    obtain ⟨e, he, rfl⟩ := List.mem_map.1 (hplace.subset hplaced)
    obtain ⟨step, hstep, hkey⟩ := Draft.mem_keys_iff.1 (heq ▸ hremoved)
    obtain ⟨e', -, hmem⟩ := List.mem_flatMap.1 hstep
    dsimp only at hmem
    split at hmem
    · cases hmem
    · next hother =>
      have hslot : e.1.key stem = e'.1.key stem := List.mem_singleton.1 <|
        (hp.remove _ _).subset (Draft.mem_keys_iff.2 ⟨step, hmem, hkey⟩)
      rw [← Slot.key_inj hslot] at hother
      exact hother (Option.isSome_iff_exists.2 ⟨e.2, devices.mem_toList_iff.1 he⟩)

end Placement

end GuestConfig
