import GuestConfig.Proofs.WellFormed

/-!
# New guests

A new guest is planned from nothing, an existing one from what it has.  Nevertheless there is one
plan only: a guest that does not exist yet is planned like a guest that has nothing.  The rules see
no difference between the two, and neither do the settings.  A drive is named after its guest only
where it takes the place of another drive, and nothing can be deleted where nothing is.

The exception is the pool.  A new guest is placed in it, an existing guest is left where it is.

## What is here

* `planCreation_eq_ok_iff`, `planCreation_eq_error_iff`, `planUpdate_eq_error_iff` — a plan is the
  result of its rules and of its draft.
* `Configuration.not_delete_mem_plan` — **where nothing is, nothing is deleted.**
* `Configuration.planOnly_creation` — every setting but the pool is planned alike.
* `Configuration.refusal?_plan_creation`, `Configuration.effect_plan_creation` — the two drafts are
  refused alike, and differ in the pool only.
* `Configuration.placedIn` — what a change does once its guest is placed in a pool.
* `planCreation_agrees` — **creating a guest agrees with updating an empty one.**
-/

set_option autoImplicit false

namespace GuestConfig

/-! ## Rules first, then a draft -/

section

variable {version : Version} {guest : GuestId} {current desired : Configuration} {change : Change}
  {cause : RuleError}

/-- **A creation is planned exactly if what is asked for is in order and no step is refused.**  It
asks for no reboot. -/
theorem planCreation_eq_ok_iff :
    (planCreation version desired).result = .ok change ↔
      desired.validate version none = .ok () ∧
        (desired.plan version none none).refusal? = none ∧
        { (desired.plan version none none).change with reboot := false } = change := by
  unfold planCreation
  split
  · next h => simp [h]
  · next h =>
    dsimp only
    rw [Plan.result_ofDraft, map_eq_ok_iff, h]
    simp [Draft.result_eq_ok_iff]

theorem planCreation_eq_error_iff :
    (planCreation version desired).result = .error cause ↔
      desired.validate version none = .error cause ∨
        desired.validate version none = .ok () ∧
          (desired.plan version none none).refusal? = some cause := by
  unfold planCreation
  split
  · next h => simp [h]
  · next h =>
    dsimp only
    rw [Plan.result_ofDraft, map_eq_error_iff, Draft.result_eq_error_iff, h]
    simp

theorem planUpdate_eq_error_iff :
    (planUpdate version guest current desired).result = .error cause ↔
      desired.validate version (some current) = .error cause ∨
        desired.validate version (some current) = .ok () ∧
          (desired.plan version (some guest) (some current)).refusal? = some cause := by
  unfold planUpdate
  split
  · next h => simp [h]
  · next h =>
    rw [Plan.result_ofDraft, Draft.result_eq_error_iff, h]
    simp

end

/-! ## Where nothing is -/

theorem Wire.hasPlainSlots_empty : HasPlainSlots .empty where
  drives _ _ _ h := by cases h
  networks _ _ h := by cases h
  addressing _ _ h := by cases h
  pciDevices _ _ h := by cases h
  serials _ _ h := by cases h
  usbs _ _ h := by cases h

/-- Without a drive in any slot it does not matter whose guest the drives are for. -/
theorem Disks.plan_none_congr (guest guest' : Option GuestId) (desired : Option Disks)
    (iso : Option IsoImage) : plan guest none desired iso = plan guest' none desired iso := rfl

namespace Configuration

variable {version : Version} {guest : GuestId} {desired : Configuration}

theorem holds_empty : Holds .empty { } :=
  ofWire_eq_ok_iff.1 rfl

/-- **Where nothing is, nothing is deleted.** -/
theorem not_delete_mem_plan {key : String} {reboot : Bool} :
    Step.delete key reboot ∉ desired.plan version (some guest) (some { }) := by
  intro h
  obtain ⟨v, hv, -⟩ := hasValue_of_delete holds_empty Wire.hasPlainSlots_empty h
  cases hv

/-- Every setting but the pool is planned for a new guest as for one that has nothing. -/
theorem planOnly_creation {s : Setting} (h : s ≠ .pool) :
    planOnly version none { } desired s = planOnly version (some guest) { } desired s := by
  rw [planOnly_eq, planOnly_eq]
  cases s with
  | pool => exact absurd rfl h
  | disks => exact Disks.plan_none_congr none (some guest) desired.disks desired.iso
  | _ => rfl

theorem refusal?_planPool (guest : Option GuestId) (pool : Option PoolName) :
    (planPool guest pool).refusal? = none := by
  cases pool <;> cases guest <;> rfl

/-- **A new guest is refused for the same cause as one that has nothing.** -/
theorem refusal?_plan_creation (guest : GuestId) :
    (desired.plan version none none).refusal? =
      (desired.plan version (some guest) (some { })).refusal? := by
  have hcreation : desired.plan version none none = desired.plan version none (some { }) := rfl
  rw [hcreation, plan_eq_flatMap, plan_eq_flatMap, Draft.refusal?_flatMap, Draft.refusal?_flatMap]
  refine congrArg (List.findSome? · Setting.all) (funext fun s ↦ ?_)
  by_cases hs : s = .pool
  · rw [hs, planOnly_eq, planOnly_eq]
    exact (refusal?_planPool none desired.pool).trans
      (refusal?_planPool (some guest) desired.pool).symm
  · rw [planOnly_creation hs]

/-- **A new guest gets what a guest that has nothing gets, and then a pool.** -/
theorem effect_plan_creation (key : String) :
    (desired.plan version none none).effect key =
      ((desired.plan version (some guest) (some { })).effect key).andThen
        ((planPool none desired.pool).effect key) := by
  have hcreation : desired.plan version none none = desired.plan version none (some { }) := rfl
  have hpool (h : Setting.owner? key ≠ some .pool) :
      (planPool none desired.pool).effect key = .keep :=
    Draft.effect_eq_keep (touchesOnly_planPool none desired.pool) h
  rw [hcreation, effect_plan, effect_plan]
  cases hs : Setting.owner? key with
  | none => rw [hpool (by rw [hs]; nofun)]; rfl
  | some s =>
    dsimp only
    by_cases h : s = .pool
    · rw [h, planOnly_eq, planOnly_eq]
      cases desired.pool <;> exact (Effect.keep_andThen _).symm
    · rw [planOnly_creation h, hpool fun e ↦ h (Option.some.inj (hs.symm.trans e)),
        Effect.andThen_keep]

variable (version guest desired)

theorem deleted_change_plan :
    (desired.plan version (some guest) (some { })).change.deleted = [] :=
  List.eq_nil_iff_forall_not_mem.2 fun _ hkey ↦ by
    obtain ⟨reboot, hdelete⟩ := Draft.mem_deleted_change_iff.1 hkey
    exact not_delete_mem_plan hdelete

/-- The keys to set for a guest that is also placed in a pool, if there is one for it. -/
def placedIn (pool : Option PoolName) (params : Wire) : Wire :=
  match pool with
  | none => params
  | some name => params.insert poolKey (.text name.text)

/-- The change for a new guest is the one for a guest that has nothing, and the pool. -/
theorem change_plan_creation :
    (desired.plan version none none).change.deleted = [] ∧
      (desired.plan version none none).change.params =
        placedIn desired.pool (desired.plan version (some guest) (some { })).change.params := by
  have heffect (key : String) : (desired.plan version none none).change.effect key =
      Change.effect (Draft.change (desired.plan version (some guest) (some { }) ++
        planPool none desired.pool)) key := by
    rw [Draft.effect_change, Draft.effect_change, Draft.effect_append, effect_plan_creation]
  have hdeleted := deleted_change_plan version guest desired
  -- from here on the two plans are any two, and so is the pool
  generalize (desired.plan version none none).change = created at *
  generalize desired.plan version (some guest) (some { }) = draft at *
  generalize desired.pool = pool at *
  cases pool with
  | none =>
    rw [planPool_none, List.append_nil] at heffect
    exact Change.eq_of_effect_eq heffect hdeleted
  | some name =>
    have hset : planPool none (some name) = [.set poolKey (.text name.text) false] := rfl
    rw [hset, Draft.change_concat] at heffect
    exact Change.eq_of_effect_eq heffect hdeleted

theorem get?_poolKey_change_plan :
    (desired.plan version (some guest) (some { })).change.params.get? poolKey = none := by
  cases hget : (desired.plan version (some guest) (some { })).change.params.get? poolKey with
  | none => rfl
  | some v =>
    obtain ⟨reboot, hset⟩ := Draft.exists_set_of_get?_change hget
    obtain ⟨s, hs⟩ := mem_plan_iff.1 hset
    have howner : Setting.owner? poolKey = some s :=
      touchesOnly_planOnly version (some guest) { } desired s _ hs poolKey rfl
    obtain rfl : s = .pool := (Option.some.inj howner).symm
    rw [planOnly_eq] at hs
    dsimp only at hs
    cases hpool : desired.pool <;> rw [hpool] at hs
    · cases hs
    · cases List.mem_singleton.1 hs

end Configuration

/-! ## Creations and updates -/

/-- **Creating a guest agrees with updating an empty one.**  One is refused exactly if the other is,
and for the same cause.  Neither deletes anything, a creation asks for no reboot, and what it sets
is what the update sets, and the pool, which the update never sets. -/
theorem planCreation_agrees (version : Version) (guest : GuestId) (desired : Configuration) :
    (∀ cause, (planCreation version desired).result = .error cause ↔
      (planUpdate version guest { } desired).result = .error cause) ∧
    ∀ created updated, (planCreation version desired).result = .ok created →
      (planUpdate version guest { } desired).result = .ok updated →
        created.deleted = [] ∧ updated.deleted = [] ∧ created.reboot = false ∧
          updated.params.get? Configuration.poolKey = none ∧
          created.params = Configuration.placedIn desired.pool updated.params := by
  have hrules : desired.validate version none = desired.validate version (some { }) := rfl
  refine ⟨fun cause ↦ ?_, fun created updated hcreated hupdated ↦ ?_⟩
  · rw [planCreation_eq_error_iff, planUpdate_eq_error_iff, hrules,
      Configuration.refusal?_plan_creation guest]
  · obtain ⟨-, -, rfl⟩ := planCreation_eq_ok_iff.1 hcreated
    obtain ⟨-, -, rfl⟩ := planUpdate_eq_ok_iff.1 hupdated
    obtain ⟨hdeleted, hparams⟩ := Configuration.change_plan_creation version guest desired
    dsimp only
    exact ⟨hdeleted, Configuration.deleted_change_plan version guest desired, rfl,
      Configuration.get?_poolKey_change_plan version guest desired, hparams⟩

/-- What is asked for to start a guest with a disk in a pool. -/
def pooledGuest : Configuration where
  disks := some { ide := some (.ofList [(⟨0, by decide⟩,
    .disk { storage := "local-lvm", size := 33554432 })]) }
  memory := some { capacity := some 2048 }
  pool := some ⟨"lab", by decide +kernel⟩

/-- Only the update asks for a reboot, and only the creation sets the pool. -/
theorem planCreation_agrees_of_pool :
    ∃ created updated : Change,
      (planCreation ⟨8, 1, 0⟩ pooledGuest).result = .ok created ∧
      (planUpdate ⟨8, 1, 0⟩ ⟨100, by decide, by decide⟩ { } pooledGuest).result = .ok updated ∧
      created.params.keys = ["ide0", "memory", "pool"] ∧
      updated.params.keys = ["ide0", "memory"] ∧ updated.reboot = true ∧
      created.deleted = [] ∧ updated.deleted = [] ∧ created.reboot = false ∧
      created.params = updated.params.insert Configuration.poolKey (.text "lab") := by
  have h : ((planCreation ⟨8, 1, 0⟩ pooledGuest).result.toOption.bind fun created ↦
      (planUpdate ⟨8, 1, 0⟩ ⟨100, by decide, by decide⟩ { } pooledGuest).result.toOption.bind
        fun updated ↦ some (created.params.keys, updated.params.keys, updated.reboot)) =
      some (["ide0", "memory", "pool"], ["ide0", "memory"], true) := by decide +kernel
  obtain ⟨created, hcreated, h⟩ := exists_of_toOption_bind h
  obtain ⟨updated, hupdated, h⟩ := exists_of_toOption_bind h
  obtain ⟨hkeys, hrest⟩ := Prod.mk.inj (Option.some.inj h)
  obtain ⟨hkeys', hreboot⟩ := Prod.mk.inj hrest
  obtain ⟨hcreatedNone, hupdatedNone, hnoReboot, -, hparams⟩ :=
    (planCreation_agrees _ _ _).2 created updated hcreated hupdated
  exact ⟨created, updated, hcreated, hupdated, hkeys, hkeys', hreboot, hcreatedNone, hupdatedNone,
    hnoReboot, hparams⟩

end GuestConfig
