import GuestConfig.Proofs.Convergence

/-!
# The memory that an update leaves

The rules for the memory look at what is asked for on top of what is in effect, and the steps bring
about something that need not be the same: a weight of zero clears the weight, and a weight that is
left over from an earlier balloon is cleared although nobody asked for it.  What is in effect may
break the rules itself.  An update that asks for memory nevertheless leaves settings that fit
together, whichever of them came from which side.

## What is here

* `Memory.IsConsistent` — a minimum within the capacity, and a weight only with a balloon.
* `Memory.isConsistent_settled` — settings that pass the rules are consistent once they are planned.
* `planUpdate_memory_isConsistent` — **an update that asks for memory leaves it consistent.**
-/

set_option autoImplicit false

namespace GuestConfig

namespace Memory

/-- The settings fit together: the minimum is within the capacity, and there is a weight only if the
host may shrink the guest.  Zero is no weight. -/
structure IsConsistent (memory : Memory) : Prop where
  /-- The minimum is within the capacity. -/
  minimum_le : ∀ least, memory.minimum = some least → least ≤ memory.effectiveCapacity
  /-- A guest with a weight has a minimum below its capacity. -/
  exists_lt : ∀ weight, memory.shares = some weight → 0 < weight →
    ∃ least, memory.minimum = some least ∧ least < memory.effectiveCapacity

theorem canShrink_iff {memory : Memory} : memory.canShrink = true ↔
    ∃ least, memory.minimum = some least ∧ least < memory.effectiveCapacity := by
  simp only [canShrink, Option.any_eq_true, decide_eq_true_eq]

section settled

variable {current : Option Memory} {desired : Memory}

/-- The rules that span several settings, for the settings after they were laid over. -/
theorem rules_of_validate (h : desired.validate current = .ok ()) :
    let after := desired.laidOver (current.getD { })
    (∀ least, after.minimum = some least → least ≤ after.effectiveCapacity) ∧
      ∀ weight, desired.shares = some weight → 0 < weight → after.canShrink = true := by
  simp only [validate, bind_unit_eq_ok_iff, requireOf_eq_ok_iff, require_eq_ok_iff] at h
  obtain ⟨-, -, hminimum, hshares⟩ := h
  refine ⟨fun least hleast ↦ of_decide_eq_true (hminimum least hleast),
    fun weight hweight hpos ↦ ?_⟩
  have hne : weight ≠ 0 := (UInt16.ne_of_lt hpos).symm
  simpa [hne] using hshares weight hweight

/-- A weight that is there after it was planned was asked for, or it has kept its meaning. -/
theorem settledShares_cases {base : Memory} {weight : UInt16}
    (h : settledShares base desired = some weight) (hpos : 0 < weight) :
    desired.shares = some weight ∨ (desired.laidOver base).canShrink = true := by
  unfold settledShares at h
  split at h
  · next asked hasked =>
    rw [hasked] at h ⊢
    unfold Draft.settled at h
    dsimp only at h
    split at h
    · exact .inl h
    · obtain ⟨-, -, hweight⟩ := Option.map_eq_some_iff.1 h
      exact .inl (congrArg some hweight)
  · split at h
    · cases h
    · next hkept =>
      -- a positive weight is cleared unless the host may shrink the guest
      rw [h, Option.any_some, decide_eq_true hpos, Bool.true_and, Bool.not_eq_true',
        Bool.not_eq_false] at hkept
      exact .inr hkept

/-- **Settings that pass the rules are consistent once they are planned**, whatever they are laid
over. -/
theorem isConsistent_settled (h : desired.validate current = .ok ()) :
    (settled (current.getD { }) desired).IsConsistent := by
  obtain ⟨hminimum, hshares⟩ := rules_of_validate h
  refine ⟨hminimum, fun weight hweight hpos ↦ canShrink_iff.1 ?_⟩
  rcases settledShares_cases hweight hpos with hasked | hshrink
  · exact hshares weight hasked hpos
  · exact hshrink

end settled

end Memory

/-! ## Updates -/

/-- **An update that asks for memory leaves it consistent.**  Nothing is assumed about the memory
that the guest had before, and it does not matter which of the settings are asked for. -/
theorem planUpdate_memory_isConsistent {version : Version} {guest : GuestId} {w : Wire}
    {current desired : Configuration} {change : Change}
    (hcurrent : Configuration.ofWire w = .ok current) (hmemory : desired.memory.isSome)
    (hchange : (planUpdate version guest current desired).result = .ok change) :
    ∃ after, Memory.ofWire (change.applyTo w) = .ok after ∧ (after.getD { }).IsConsistent := by
  obtain ⟨memory, hdesired⟩ := Option.isSome_iff_exists.1 hmemory
  have hrules := Configuration.validate_eq_ok_iff.1 (planUpdate_eq_ok_iff.1 hchange).1
  have hfollows := Configuration.follows_applyTo hchange w .memory
  rw [Configuration.planOnly_eq, hdesired] at hfollows
  obtain ⟨after, hok, hgetD⟩ :=
    Memory.exists_settled (Configuration.ofWire_eq_ok_iff.1 hcurrent).memory hfollows
  exact ⟨after, hok, hgetD ▸ Memory.isConsistent_settled (hrules.memory memory hdesired)⟩

/-- A guest whose minimum exceeds its capacity, and which has a weight without a balloon. -/
def overcommittedGuest : Wire :=
  .ofList [("balloon", .int 2048), ("memory", .text "current=1024"), ("shares", .int 1500)]

/-- What is asked for to bring the minimum down to the capacity. -/
def fittedGuest : Configuration where
  memory := some { minimum := some 1024 }

/-- The weight is cleared along with the minimum, and then everything fits together. -/
theorem planUpdate_memory_isConsistent_of_overcommitted :
    ∃ (current : Configuration) (change : Change) (after : Option Memory),
      Configuration.ofWire overcommittedGuest = .ok current ∧ fittedGuest.memory.isSome ∧
      (planUpdate ⟨8, 1, 0⟩ ⟨100, by decide, by decide⟩ current fittedGuest).result = .ok change ∧
      change.params.keys = ["balloon"] ∧ change.deleted = ["shares"] ∧
      Memory.ofWire (change.applyTo overcommittedGuest) = .ok after ∧
      (after.getD { }).IsConsistent := by
  have h : ((Configuration.ofWire overcommittedGuest).toOption.bind fun current ↦
      (planUpdate ⟨8, 1, 0⟩ ⟨100, by decide, by decide⟩ current
        fittedGuest).result.toOption.bind fun change ↦
          some (change.params.keys, change.deleted)) =
      some (["balloon"], ["shares"]) := by decide +kernel
  obtain ⟨current, hcurrent, h⟩ := exists_of_toOption_bind h
  obtain ⟨change, hchange, hkeys⟩ := exists_of_toOption_bind h
  obtain ⟨hparams, hdeleted⟩ := Prod.mk.inj (Option.some.inj hkeys)
  obtain ⟨after, hafter, hconsistent⟩ := planUpdate_memory_isConsistent hcurrent rfl hchange
  exact ⟨current, change, after, hcurrent, rfl, hchange, hparams, hdeleted, hafter, hconsistent⟩

end GuestConfig
