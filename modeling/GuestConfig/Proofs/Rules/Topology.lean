import GuestConfig.Proofs.Convergence

/-!
# Virtual cores and the topology that an update leaves

The cores that are plugged in when a guest boots cannot be more than all of its sockets have.  The
topology is a matter of several settings, each of which may be asked for or be in effect, and the
rule looks at the topology after what is asked for was laid over what is in effect.  It looks at the
virtual cores only if they are asked for themselves, though: an update that asks for fewer cores, or
for fewer sockets, passes whatever number of virtual cores is in effect, and that number stays.

## What is here

* `Cpu.HasRoom` — the virtual cores are no more than the topology has.
* `Cpu.Overtakes` — a topology is asked for that has no room for the virtual cores in effect.
* `planUpdate_hasRoom_iff` — **an update leaves room for the virtual cores exactly if it does not
  overtake those in effect**, and `planUpdate_overtakes_virtualCores`, an update that does.
-/

set_option autoImplicit false

namespace GuestConfig

namespace Cpu

/-- The cores of all sockets together; an absent number counts one. -/
def totalCores (cpu : Cpu) : Nat :=
  (cpu.cores.getD 1).toNat * (cpu.sockets.getD 1).toNat

/-- The virtual cores are no more than the topology has.  This says nothing about zero, which is no
number of virtual cores. -/
def HasRoom (cpu : Cpu) : Prop :=
  ∀ n, cpu.virtualCores = some n → n.toNat ≤ cpu.totalCores

instance (cpu : Cpu) : Decidable cpu.HasRoom :=
  decidable_of_iff (cpu.virtualCores.all (·.toNat ≤ cpu.totalCores) = true)
    (by simp [HasRoom, Option.all_eq_true])

/-- A topology is asked for that has no room for the virtual cores in effect, and no other number of
virtual cores is asked for. -/
def Overtakes (desired base : Cpu) : Prop :=
  desired.virtualCores = none ∧
    ∃ n, base.virtualCores = some n ∧ topology (some base) desired < n.toNat

section settled

variable {desired base : Cpu} {affinity : Option Affinity} {s : Option String}

/-- The rules are about the topology that is there once the settings are planned. -/
theorem totalCores_settled :
    (settled base desired affinity s).totalCores = topology (some base) desired := rfl

theorem toNat_le_of_validate {version : Version} {current : Option Cpu}
    (h : desired.validate version current = .ok ()) {n : UInt16}
    (hn : desired.virtualCores = some n) : n.toNat ≤ topology current desired := by
  simp only [validate, bind_unit_eq_ok_iff, requireOf_eq_ok_iff, require_eq_ok_iff,
    Bool.or_eq_true, beq_iff_eq, decide_eq_true_eq] at h
  obtain ⟨-, -, -, -, -, hvirtualCores⟩ := h
  rcases hvirtualCores n hn with rfl | hle
  · exact Nat.zero_le _
  · exact hle

/-- The virtual cores that are asked for are what there is once they were planned; zero clears
them. -/
theorem virtualCores_settled {n asked : UInt16} (hasked : desired.virtualCores = some asked)
    (h : (settled base desired affinity s).virtualCores = some n) : n = asked := by
  have hsettled : Draft.settled Value.ofNonzero base.virtualCores (some asked) = some n :=
    hasked ▸ h
  unfold Draft.settled at hsettled
  dsimp only at hsettled
  split at hsettled
  · exact (Option.some.inj hsettled).symm
  · obtain ⟨-, -, heq⟩ := Option.map_eq_some_iff.1 hsettled
    exact heq.symm

/-- There is room for the virtual cores once the settings are planned, unless those in effect are
overtaken. -/
theorem hasRoom_settled_iff {version : Version} {current : Option Cpu}
    (h : desired.validate version current = .ok ()) :
    (settled (current.getD { }) desired affinity s).HasRoom ↔
      ¬desired.Overtakes (current.getD { }) := by
  have htopology : topology (some (current.getD { })) desired = topology current desired := rfl
  cases hasked : desired.virtualCores with
  | none =>
    have hkept : (settled (current.getD { }) desired affinity s).virtualCores =
        (current.getD { }).virtualCores := by
      rw [settled, hasked, Draft.settled_none]
    simp only [HasRoom, Overtakes, hkept, totalCores_settled, hasked, true_and, not_exists,
      not_and, Nat.not_lt]
  | some asked =>
    refine iff_of_true (fun n hn ↦ ?_) fun hovertakes ↦ ?_
    · rw [virtualCores_settled hasked hn, totalCores_settled, htopology]
      exact toNat_le_of_validate h hasked
    · exact absurd (hasked.symm.trans hovertakes.1) (Option.some_ne_none asked)

end settled

end Cpu

/-! ## Updates -/

/-- **An update leaves room for the virtual cores exactly if it does not overtake those in
effect.** -/
theorem planUpdate_hasRoom_iff {version : Version} {guest : GuestId} {w : Wire}
    {current desired : Configuration} {change : Change}
    (hcurrent : Configuration.ofWire w = .ok current) (hroom : (current.cpu.getD { }).HasRoom)
    (hchange : (planUpdate version guest current desired).result = .ok change) :
    ∃ after, Cpu.ofWire (change.applyTo w) = .ok after ∧
      ((after.getD { }).HasRoom ↔
        ∀ cpu, desired.cpu = some cpu → ¬cpu.Overtakes (current.cpu.getD { })) := by
  have hw := (Configuration.ofWire_eq_ok_iff.1 hcurrent).cpu
  have hfollows := Configuration.follows_applyTo hchange w .cpu
  rw [Configuration.planOnly_eq] at hfollows
  cases hdesired : desired.cpu with
  | none =>
    rw [hdesired] at hfollows
    exact ⟨current.cpu, (Cpu.ofWire_congr hfollows).trans hw,
      iff_of_true hroom fun cpu hnone ↦ absurd hnone.symm (Option.some_ne_none cpu)⟩
  | some cpu =>
    rw [hdesired] at hfollows
    have hrules := Configuration.validate_eq_ok_iff.1 (planUpdate_eq_ok_iff.1 hchange).1
    have hmodel := (Cpu.effect_plan version current.cpu cpu).2.2.2.2.2.2.2
    obtain ⟨s, hs, -⟩ := (Cpu.ofWire_eq_ok_iff.1 hw).1.modelText
    obtain ⟨s', hs'⟩ := Cpu.exists_modelText hs (hmodel ▸ hfollows Cpu.modelKey rfl)
    obtain ⟨after, affinity, hok, hgetD, -⟩ := Cpu.exists_settled hw hfollows hs'
    have hiff : (Cpu.settled (current.cpu.getD { }) cpu affinity s').HasRoom ↔
        ¬cpu.Overtakes (current.cpu.getD { }) :=
      Cpu.hasRoom_settled_iff (hrules.cpu cpu hdesired)
    refine ⟨after, hok, ?_⟩
    rw [hgetD]
    simpa using hiff

/-- A guest with all of its four cores plugged in. -/
def fullyPluggedGuest : Wire :=
  .ofList [("cores", .int 4), ("vcpus", .int 4)]

/-- What is asked for to double the sockets and to halve the cores, so that the virtual cores still
fit. -/
def rearrangedGuest : Configuration where
  cpu := some { cores := some 2, sockets := some 2 }

/-- The virtual cores fit the topology that they did not have before. -/
theorem planUpdate_hasRoom_iff_of_rearranged :
    ∃ (current : Configuration) (change : Change) (after : Option Cpu),
      Configuration.ofWire fullyPluggedGuest = .ok current ∧ (current.cpu.getD { }).HasRoom ∧
      (planUpdate ⟨8, 1, 0⟩ ⟨100, by decide, by decide⟩ current rearrangedGuest).result =
        .ok change ∧
      change.params.keys = ["cores", "sockets"] ∧
      Cpu.ofWire (change.applyTo fullyPluggedGuest) = .ok after ∧ (after.getD { }).HasRoom := by
  have h : ((Configuration.ofWire fullyPluggedGuest).toOption.bind fun current ↦
      (planUpdate ⟨8, 1, 0⟩ ⟨100, by decide, by decide⟩ current
        rearrangedGuest).result.toOption.bind fun change ↦
          some (current.cpu, change.params.keys)) =
      some (some { cores := some 4, virtualCores := some 4 }, ["cores", "sockets"]) := by
    decide +kernel
  obtain ⟨current, hcurrent, h⟩ := exists_of_toOption_bind h
  obtain ⟨change, hchange, h⟩ := exists_of_toOption_bind h
  obtain ⟨hcpu, hkeys⟩ := Prod.mk.inj (Option.some.inj h)
  have hroom : (current.cpu.getD { }).HasRoom := by
    rw [hcpu]
    decide
  obtain ⟨after, hafter, hiff⟩ := planUpdate_hasRoom_iff hcurrent hroom hchange
  refine ⟨current, change, after, hcurrent, hroom, hchange, hkeys, hafter,
    hiff.2 fun cpu hdesired ⟨_, n, hn, hlt⟩ ↦ ?_⟩
  obtain rfl := Option.some.inj hdesired
  rw [hcpu] at hn hlt
  obtain rfl := Option.some.inj hn
  exact absurd hlt (by decide)

/-- What is asked for to halve the cores of a guest. -/
def halvedCoresGuest : Configuration where
  cpu := some { cores := some 2 }

/-- Four virtual cores are left with two cores. -/
theorem planUpdate_overtakes_virtualCores :
    ∃ (current : Configuration) (change : Change) (after : Cpu),
      Configuration.ofWire fullyPluggedGuest = .ok current ∧ (current.cpu.getD { }).HasRoom ∧
      (planUpdate ⟨8, 1, 0⟩ ⟨100, by decide, by decide⟩ current halvedCoresGuest).result =
        .ok change ∧
      Cpu.ofWire (change.applyTo fullyPluggedGuest) = .ok (some after) ∧ ¬after.HasRoom := by
  have h : ((Configuration.ofWire fullyPluggedGuest).toOption.bind fun current ↦
      (planUpdate ⟨8, 1, 0⟩ ⟨100, by decide, by decide⟩ current
        halvedCoresGuest).result.toOption.bind fun change ↦
          (Cpu.ofWire (change.applyTo fullyPluggedGuest)).toOption.bind fun after ↦
            some (current.cpu, after)) =
      some (some { cores := some 4, virtualCores := some 4 },
        some { cores := some 2, virtualCores := some 4 }) := by
    decide +kernel
  obtain ⟨current, hcurrent, h⟩ := exists_of_toOption_bind h
  obtain ⟨change, hchange, h⟩ := exists_of_toOption_bind h
  obtain ⟨after, hafter, h⟩ := exists_of_toOption_bind h
  obtain ⟨hcpu, rfl⟩ := Prod.mk.inj (Option.some.inj h)
  refine ⟨current, change, _, hcurrent, ?_, hchange, hafter, by decide⟩
  rw [hcpu]
  decide

end GuestConfig
