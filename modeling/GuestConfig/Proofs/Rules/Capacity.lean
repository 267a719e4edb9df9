import GuestConfig.Proofs.Reboot

/-!
# Reboots for memory that is taken away

Memory can be added to a running guest but not taken away.  What counts is the capacity in effect,
and a guest that does not say what its capacity is has one all the same.  The plan looks at what the
guest says, though: a capacity that takes the place of the usual one is taken for memory that is
added, even if it is smaller.

## What is here

* `Memory.Lowers` — the capacity in effect comes down.
* `Memory.exists_reboots_iff_of_lowers` — the steps for such memory need a reboot exactly if the
  guest says what its capacity is.
* `Configuration.exists_mem_plan_iff` — the steps of a plan are those for the memory and those of
  the plan for everything else.
* `planUpdate_lowers_reboot_iff` — **an update that lowers the capacity asks for a reboot exactly if
  the guest says what its capacity is, or something else in the update needs one**, and
  `planUpdate_lowers_usualCapacity`, an update that asks for none.
-/

set_option autoImplicit false

namespace GuestConfig

/-! ## The memory -/

namespace Memory

/-- The capacity in effect comes down. -/
def Lowers (desired base : Memory) : Prop :=
  (desired.laidOver base).effectiveCapacity < base.effectiveCapacity

instance (desired base : Memory) : Decidable (desired.Lowers base) :=
  inferInstanceAs (Decidable (_ < _))

variable {current : Option Memory} {desired base : Memory}

/-- A capacity that comes down is asked for, and it is none that the guest says it has. -/
theorem Lowers.exists_capacity (h : desired.Lowers base) :
    ∃ n, desired.capacity = some n ∧ base.capacity ≠ some n ∧ n < base.effectiveCapacity := by
  unfold Lowers at h
  cases hasked : desired.capacity with
  | none =>
    rw [effectiveCapacity, laidOver, hasked, Option.none_or] at h
    exact absurd h (UInt32.lt_irrefl _)
  | some n =>
    rw [effectiveCapacity, laidOver, hasked, Option.some_or, Option.getD_some] at h
    refine ⟨n, rfl, fun hbase ↦ ?_, h⟩
    rw [effectiveCapacity, hbase, Option.getD_some] at h
    exact UInt32.lt_irrefl _ h

theorem Lowers.set_mem_plan (h : desired.Lowers (current.getD { })) :
    .set capacityKey (.ofWord (desired.laidOver (current.getD { })).effectiveCapacity)
        (current.getD { }).capacity.isSome ∈ plan current desired := by
  obtain ⟨n, hasked, hne, hlt⟩ := h.exists_capacity
  have hafter : (desired.laidOver (current.getD { })).effectiveCapacity = n := by
    rw [effectiveCapacity, laidOver, hasked, Option.some_or, Option.getD_some]
  have hshrinking : isShrinking (current.getD { }).capacity (some n) =
      (current.getD { }).capacity.isSome := by
    cases hbefore : (current.getD { }).capacity with
    | none => rfl
    | some before =>
      rw [effectiveCapacity, hbefore, Option.getD_some] at hlt
      exact decide_eq_true hlt
  rw [hafter, ← hshrinking, plan]
  refine List.mem_append_left _ (List.mem_append_left _ ?_)
  rw [hasked]
  exact Draft.mem_setting_iff.2 ⟨n, rfl, hne, .inl ⟨_, rfl, rfl⟩⟩

/-- **The steps for memory that is taken away need a reboot exactly if the guest says what its
capacity is.** -/
theorem exists_reboots_iff_of_lowers (h : desired.Lowers (current.getD { })) :
    (∃ step ∈ plan current desired, step.reboots = true) ↔
      (current.getD { }).capacity.isSome := by
  constructor
  · rintro ⟨step, hstep, hreboots⟩
    obtain ⟨key, hkey⟩ : ∃ key, step.key? = some key := by
      cases step with
      | set key => exact ⟨key, rfl⟩
      | delete key => exact ⟨key, rfl⟩
      | ignorePool => cases hreboots
      | refuse => cases hreboots
    obtain ⟨-, before, -, hbefore, -⟩ := ((planStep_of_mem hstep).reboots_iff hkey).1 hreboots
    rw [hbefore]
    rfl
  · intro hsome
    exact ⟨_, h.set_mem_plan, hsome⟩

end Memory

/-! ## Updates -/

namespace Configuration

section withoutMemory

variable {version : Version} {guest : Option GuestId} {current desired : Configuration}

/-- Without the memory the other settings are planned as they are with it. -/
theorem planOnly_memory_none (s : Setting) :
    planOnly version guest current { desired with memory := none } s =
      if s = .memory then [] else planOnly version guest current desired s := by
  rw [planOnly_eq, planOnly_eq]
  cases s <;> rfl

theorem planOnly_memory_some {memory : Memory} (h : desired.memory = some memory) :
    planOnly version guest current desired .memory = Memory.plan current.memory memory := by
  rw [planOnly_eq, h, Option.elim_some]

/-- **The steps of a plan are those for the memory and those of the plan for everything else.** -/
theorem exists_mem_plan_iff {memory : Memory} (h : desired.memory = some memory)
    {p : Step → Prop} :
    (∃ step ∈ desired.plan version guest (some current), p step) ↔
      (∃ step ∈ Memory.plan current.memory memory, p step) ∨
        ∃ step ∈ { desired with memory := none }.plan version guest (some current), p step := by
  have hmemory : planOnly version guest current desired .memory =
      Memory.plan current.memory memory := planOnly_memory_some h
  simp only [mem_plan_iff, planOnly_memory_none, ← hmemory]
  constructor
  · rintro ⟨step, ⟨s, hstep⟩, hp⟩
    by_cases hs : s = .memory
    · exact .inl ⟨step, hs ▸ hstep, hp⟩
    · exact .inr ⟨step, ⟨s, by rwa [if_neg hs]⟩, hp⟩
  · rintro (⟨step, hstep, hp⟩ | ⟨step, ⟨s, hstep⟩, hp⟩)
    · exact ⟨step, ⟨.memory, hstep⟩, hp⟩
    · split at hstep
      · cases hstep
      · exact ⟨step, ⟨s, hstep⟩, hp⟩

theorem refusal?_plan_memory_none
    (h : (desired.plan version guest (some current)).refusal? = none) :
    ({ desired with memory := none }.plan version guest (some current)).refusal? = none := by
  rw [plan_eq_flatMap, Draft.refusal?_flatMap_eq_none_iff] at h ⊢
  intro s hs
  rw [planOnly_memory_none]
  split
  · rfl
  · exact h s hs

end withoutMemory

end Configuration

section updates

variable {version : Version} {guest : GuestId} {current desired : Configuration} {change : Change}

theorem exists_planUpdate_memory_none
    (h : (planUpdate version guest current desired).result = .ok change) :
    ∃ rest, (planUpdate version guest current { desired with memory := none }).result =
      .ok rest := by
  obtain ⟨hvalid, hrefusal, -⟩ := planUpdate_eq_ok_iff.1 h
  refine ⟨_, planUpdate_eq_ok_iff.2
    ⟨?_, Configuration.refusal?_plan_memory_none hrefusal, rfl⟩⟩
  exact Configuration.validate_eq_ok_iff.2 { Configuration.validate_eq_ok_iff.1 hvalid with
    memory := fun _ hnone ↦ absurd hnone.symm (Option.some_ne_none _) }

/-- **An update that lowers the capacity asks for a reboot exactly if the guest says what its
capacity is, or the update needs one without the memory, too.**  The new capacity is written in any
case. -/
theorem planUpdate_lowers_reboot_iff {memory : Memory} (hmemory : desired.memory = some memory)
    (hlowers : memory.Lowers (current.memory.getD { }))
    (hchange : (planUpdate version guest current desired).result = .ok change) :
    change.params.get? Memory.capacityKey =
        some (.ofWord (memory.laidOver (current.memory.getD { })).effectiveCapacity) ∧
      ∃ rest, (planUpdate version guest current { desired with memory := none }).result =
          .ok rest ∧
        (change.reboot = true ↔
          (current.memory.getD { }).capacity.isSome ∨ rest.reboot = true) := by
  obtain ⟨rest, hrest⟩ := exists_planUpdate_memory_none hchange
  obtain ⟨-, -, rfl⟩ := planUpdate_eq_ok_iff.1 hchange
  obtain ⟨-, -, rfl⟩ := planUpdate_eq_ok_iff.1 hrest
  refine ⟨?_, _, hrest, ?_⟩
  · have hnodup := Configuration.nodup_keys_plan version (some guest) current desired
    have hplan : Configuration.planOnly version (some guest) current desired .memory =
        Memory.plan current.memory memory := Configuration.planOnly_memory_some hmemory
    exact (Draft.get?_change_eq_some_iff hnodup).2
      ⟨_, Configuration.mem_plan_iff.2 ⟨.memory, hplan ▸ hlowers.set_mem_plan⟩⟩
  · rw [Draft.reboot_change_iff, Draft.reboot_change_iff,
      Configuration.exists_mem_plan_iff hmemory, Memory.exists_reboots_iff_of_lowers hlowers]

end updates

/-- A guest with a capacity, and with a minimum. -/
def balloonedGuest : Wire :=
  .ofList [("balloon", .int 512), ("memory", .text "current=2048"), ("name", .text "db")]

/-- What is asked for to halve the capacity of that guest. -/
def halvedMemoryGuest : Configuration where
  memory := some { capacity := some 1024 }

/-- Half of the capacity is taken away, and the guest has to be rebooted. -/
theorem planUpdate_lowers_reboot_iff_of_halved :
    ∃ (current : Configuration) (change : Change),
      Configuration.ofWire balloonedGuest = .ok current ∧
      (planUpdate ⟨8, 1, 0⟩ ⟨100, by decide, by decide⟩ current halvedMemoryGuest).result =
        .ok change ∧
      change.params.get? "memory" = some (.int 1024) ∧ change.reboot = true := by
  have h : ((Configuration.ofWire balloonedGuest).toOption.bind fun current ↦
      (planUpdate ⟨8, 1, 0⟩ ⟨100, by decide, by decide⟩ current
        halvedMemoryGuest).result.toOption.bind fun change ↦ some current.memory) =
      some (some { capacity := some 2048, minimum := some 512 }) := by decide +kernel
  obtain ⟨current, hcurrent, h⟩ := exists_of_toOption_bind h
  obtain ⟨change, hchange, h⟩ := exists_of_toOption_bind h
  have hmemory := Option.some.inj h
  have hasked : halvedMemoryGuest.memory = some { capacity := some 1024 } := rfl
  obtain ⟨hset, rest, -, hreboot⟩ :=
    planUpdate_lowers_reboot_iff hasked (by rw [hmemory]; decide) hchange
  exact ⟨current, change, hcurrent, hchange, hset, hreboot.2 (.inl (by rw [hmemory]; rfl))⟩

/-- What is asked for to give a guest half of the usual capacity. -/
def modestGuest : Configuration where
  memory := some { capacity := some 256 }

/-- Half of the usual capacity is taken away from a guest that does not say what its capacity is,
and nobody is told to reboot it. -/
theorem planUpdate_lowers_usualCapacity :
    ∃ (current : Configuration) (change : Change),
      Configuration.ofWire .empty = .ok current ∧
      (∃ memory, modestGuest.memory = some memory ∧
        memory.Lowers (current.memory.getD { })) ∧
      (planUpdate ⟨8, 1, 0⟩ ⟨100, by decide, by decide⟩ current modestGuest).result = .ok change ∧
      Memory.ofWire (change.applyTo .empty) = .ok (some { capacity := some 256 }) ∧
      change.reboot = false := by
  have h : ((Configuration.ofWire .empty).toOption.bind fun current ↦
      (planUpdate ⟨8, 1, 0⟩ ⟨100, by decide, by decide⟩ current
        modestGuest).result.toOption.bind fun change ↦
          (Memory.ofWire (change.applyTo .empty)).toOption.bind fun after ↦
            some (current.memory, after, change.reboot)) =
      some (none, some { capacity := some 256 }, false) := by decide +kernel
  obtain ⟨current, hcurrent, h⟩ := exists_of_toOption_bind h
  obtain ⟨change, hchange, h⟩ := exists_of_toOption_bind h
  obtain ⟨after, hafter, h⟩ := exists_of_toOption_bind h
  obtain ⟨hmemory, hrest⟩ := Prod.mk.inj (Option.some.inj h)
  obtain ⟨rfl, hreboot⟩ := Prod.mk.inj hrest
  exact ⟨current, change, hcurrent, ⟨_, rfl, by rw [hmemory]; decide⟩, hchange, hafter, hreboot⟩

end GuestConfig
