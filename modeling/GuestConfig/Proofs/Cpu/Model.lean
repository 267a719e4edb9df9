import GuestConfig.Proofs.Commutation
import GuestConfig.Proofs.Plan.Parts
import GuestConfig.Proofs.Settling.Cpu

/-!
# The names of CPU models

A model may be asked for in any spelling, and the spelling that is stored may be another one.  What
makes this harmless is that the proper name of a model is a normal form: it depends on the folded
name only, it is its own proper name, and no two models compete for one folded name.  Asking for the
model that a guest has is then no change, in whatever spelling.

## What is here

* `CpuModel.pairwise_folded` — no two models share a folded name.
* `CpuModel.canonical_eq_ok_iff` — what has a proper name, and which one.
* `CpuModel.AreAlike`, `CpuModel.areAlike_canonical` — two spellings of one name have one outcome.
* `CpuModel.canonical_standard`, `Cpu.properModel_properModel` — names that are their own proper
  names.
* `Cpu.Respells` — the model in effect is asked for, in some spelling.
* `CpuModel.canonical_isNormalForm` — **proper names are a normal form**, which is all that planning
  looks at.
-/

set_option autoImplicit false

namespace GuestConfig

namespace CpuModel

variable {version : Version} {n m name proper : String}

/-! ## The list of models -/

/-- **No two models share a folded name.** -/
theorem pairwise_folded : all.Pairwise fun a b ↦ folded a.name ≠ folded b.name := by
  decide +kernel

theorem eq_of_folded_eq {a b : CpuModel} (ha : a ∈ all) (hb : b ∈ all)
    (h : folded a.name = folded b.name) : a = b := by
  have hpairwise : all.Pairwise fun a b ↦ folded a.name = folded b.name → a = b :=
    pairwise_folded.imp fun hne heq ↦ absurd heq hne
  exact hpairwise.forall_of_forall_of_flip (fun _ _ _ ↦ rfl)
    (hpairwise.imp fun himp heq ↦ (himp heq.symm).symm) ha hb h

theorem mem_of_find? {model : CpuModel} (h : find? name = some model) :
    model ∈ all ∧ folded model.name = folded name :=
  ⟨List.mem_of_find?_eq_some h, by simpa using List.find?_some h⟩

/-- The model that is found is the one with the folded name. -/
theorem find?_eq_some_iff {model : CpuModel} :
    find? name = some model ↔ model ∈ all ∧ folded model.name = folded name := by
  refine ⟨mem_of_find?, fun ⟨hmem, hfolded⟩ ↦ ?_⟩
  have hsome : (find? name).isSome := List.find?_isSome.2 ⟨model, hmem, decide_eq_true hfolded⟩
  obtain ⟨found, hfound⟩ := Option.isSome_iff_exists.1 hsome
  obtain ⟨hmem', hfolded'⟩ := mem_of_find? hfound
  rw [hfound, eq_of_folded_eq hmem' hmem (hfolded'.trans hfolded.symm)]

/-- **What has a proper name, and which one.** -/
theorem canonical_eq_ok_iff :
    canonical name version = .ok proper ↔
      ∃ model ∈ all, folded model.name = folded name ∧ version.atLeast model.since ∧
        model.name = proper := by
  unfold canonical
  constructor
  · intro h
    split at h
    · cases h
    · next model hmodel =>
      obtain ⟨hmem, hfolded⟩ := find?_eq_some_iff.1 hmodel
      split at h
      · next hsince => exact ⟨model, hmem, hfolded, hsince, Except.ok.inj h⟩
      · cases h
  · rintro ⟨model, hmem, hfolded, hsince, rfl⟩
    rw [find?_eq_some_iff.2 ⟨hmem, hfolded⟩]
    exact if_pos hsince

/-! ## Spellings -/

/-- Outcomes of looking up two spellings of one name: the same proper name, or refusals for the same
reason. -/
inductive AreAlike : Except RuleError String → Except RuleError String → Prop
  /-- Both have the proper name. -/
  | named (proper : String) : AreAlike (.ok proper) (.ok proper)
  /-- Neither is known. -/
  | unknown (n m : String) :
      AreAlike (.error (.cpuTypeUnknown n)) (.error (.cpuTypeUnknown m))
  /-- Both are of a model that is too new. -/
  | tooNew (proper : String) (version : Version) :
      AreAlike (.error (.cpuTypeTooNew proper version)) (.error (.cpuTypeTooNew proper version))

/-- **Two spellings of one name have one outcome.** -/
theorem areAlike_canonical (version : Version) (h : folded n = folded m) :
    AreAlike (canonical n version) (canonical m version) := by
  have hfind : find? n = find? m := by rw [find?, find?, h]
  rw [canonical, canonical, hfind]
  cases find? m with
  | none => exact .unknown n m
  | some model =>
    dsimp only
    split
    · exact .named _
    · exact .tooNew _ _

theorem canonical_eq_ok_of_folded_eq (h : folded n = folded m)
    (hm : canonical m version = .ok proper) : canonical n version = .ok proper := by
  rw [canonical_eq_ok_iff] at hm ⊢
  rwa [h]

/-- The version's own choice of a model is a proper name. -/
theorem canonical_standard (version : Version) :
    canonical (standard version) version = .ok (standard version) := by
  rw [canonical_eq_ok_iff, standard]
  split
  · next hlevels => exact ⟨level "x86-64-v2-AES", by decide +kernel, rfl, hlevels, rfl⟩
  · have hsince : version.atLeast (always "kvm64").since = true := by
      simp only [always, Version.atLeast_iff, UInt8.toNat_zero]
      omega
    exact ⟨always "kvm64", by decide +kernel, rfl, hsince, rfl⟩

end CpuModel

namespace Cpu

open CpuModel (canonical folded)

variable {version : Version} {desired base : Cpu}

/-! ## Names in effect -/

theorem properModel_eq_self {name : String} (h : canonical name version = .ok name) :
    properModel version name = name := by
  rw [properModel, h]

@[simp] theorem properModel_properModel (name : String) :
    properModel version (properModel version name) = properModel version name := by
  cases h : canonical name version with
  | ok proper =>
    have hproper : properModel version name = proper := by rw [properModel, h]
    rw [hproper, properModel_eq_self (CpuModel.canonical_canonical h)]
  | error e =>
    have hname : properModel version name = name := by rw [properModel, h]
    rw [hname, hname]

/-! ## Asking for the model in effect -/

/-- The model in effect is asked for, in a spelling that may be another one, and no features
are. -/
structure Respells (desired base : Cpu) : Prop where
  model : ∃ n m, base.model = some n ∧ desired.model = some m ∧ folded n = folded m
  flags : desired.flags.getD .empty = .empty

/-- Nothing is planned for the model in effect. -/
theorem Respells.planModel_eq_nil (h : desired.Respells base)
    (hvalid : ∀ name, desired.model = some name → ∃ proper, canonical name version = .ok proper) :
    planModel version base desired = [] := by
  obtain ⟨n, m, hn, hm, hfolded⟩ := h.model
  obtain ⟨proper, hproper⟩ := hvalid m hm
  have hbase : base.model.map (properModel version) = some proper := by
    rw [hn, Option.map_some, properModel, CpuModel.canonical_eq_ok_of_folded_eq hfolded hproper]
  rw [planModel, hm]
  dsimp only
  rw [hproper]
  -- the text is that of the proper name, before and after
  exact if_pos (by rw [hbase, h.flags]; rfl)

/-- The key of the model is not touched for the model in effect. -/
theorem Respells.touchesOnly_plan (h : desired.Respells base)
    (hvalid : ∀ name, desired.model = some name → ∃ proper, canonical name version = .ok proper) :
    (plan version (some base) desired).TouchesOnly (· ≠ modelKey) := by
  simp only [plan, Option.getD_some, h.planModel_eq_nil hvalid, Draft.touchesOnly_append,
    Draft.touchesOnly_nil, and_true]
  refine ⟨⟨⟨⟨⟨⟨?_, ?_⟩, ?_⟩, ?_⟩, ?_⟩, ?_⟩, touchesOnly_planAffinity _ _ (by decide)⟩ <;>
  exact Draft.touchesOnly_setting _ _ _ _ _ (by decide)

end Cpu

namespace CpuModel

/-- **Proper names are a normal form**, which is all that planning looks at.  Two spellings of one
name have one outcome; a proper name is its own; no two models share a folded name; and no plan
touches the key of the model if what is asked for is a spelling of the model in effect, without
features. -/
theorem canonical_isNormalForm (version : Version) :
    (∀ n m, folded n = folded m → AreAlike (canonical n version) (canonical m version)) ∧
    (∀ name proper, canonical name version = .ok proper →
      canonical proper version = .ok proper) ∧
    (all.Pairwise fun a b ↦ folded a.name ≠ folded b.name) ∧
    ∀ (guest : GuestId) (current desired : Configuration) (base cpu : Cpu),
      current.cpu = some base → desired.cpu = some cpu → cpu.Respells base →
      (∀ name, cpu.model = some name → ∃ proper, canonical name version = .ok proper) →
      (desired.plan version (some guest) (some current)).TouchesOnly (· ≠ Cpu.modelKey) ∧
      ∀ change, (planUpdate version guest current desired).result = .ok change →
        change.params.get? Cpu.modelKey = none ∧ Cpu.modelKey ∉ change.deleted := by
  refine ⟨fun _ _ ↦ areAlike_canonical version, fun _ _ ↦ canonical_canonical, pairwise_folded,
    fun guest current desired base cpu hcurrent hdesired hrespells hvalid ↦ ?_⟩
  have htouches :
      (desired.plan version (some guest) (some current)).TouchesOnly (· ≠ Cpu.modelKey) := by
    rintro step hstep key hkey rfl
    have hcpu := Configuration.mem_planOnly_of_owner? hstep hkey
      (show Setting.owner? Cpu.modelKey = some .cpu from rfl)
    rw [Configuration.planOnly_eq] at hcpu
    dsimp only at hcpu
    rw [hcurrent, hdesired] at hcpu
    exact hrespells.touchesOnly_plan hvalid step hcpu _ hkey rfl
  refine ⟨htouches, fun change hchange ↦ ?_⟩
  obtain ⟨-, -, rfl⟩ := planUpdate_eq_ok_iff.1 hchange
  rw [← Change.effect_eq_keep_iff, Draft.effect_change]
  exact Draft.effect_eq_keep htouches (not_not_intro rfl)

/-- A guest whose model is stored in a spelling of its own. -/
def informalGuest : Wire :=
  .ofList [("cores", .int 4), ("cpu", .text "cputype=epyc_ROME,flags=+aes")]

/-- What is asked for to halve the cores, and to keep the model under another spelling. -/
def respelledGuest : Configuration where
  cpu := some { cores := some 2, model := some "Epyc Rome" }

/-- A model is asked for under another spelling than the one that is stored.  The two have the name
that the list of models has; a name that is not in the list has none, and one of a later version has
none yet. -/
theorem canonical_isNormalForm_of_respelled :
    canonical "epyc_ROME" ⟨8, 1, 0⟩ = .ok "EPYC-Rome" ∧
    canonical "Epyc Rome" ⟨8, 1, 0⟩ = .ok "EPYC-Rome" ∧
    canonical "Epyc Roma" ⟨8, 1, 0⟩ = .error (.cpuTypeUnknown "Epyc Roma") ∧
    canonical "Epyc Genoa" ⟨8, 1, 0⟩ = .error (.cpuTypeTooNew "EPYC-Genoa" ⟨8, 1, 0⟩) ∧
    ∃ (current : Configuration) (change : Change),
      Configuration.ofWire informalGuest = .ok current ∧
      (planUpdate ⟨8, 1, 0⟩ ⟨100, by decide, by decide⟩ current respelledGuest).result =
        .ok change ∧
      change.params.keys = ["cores"] ∧
      change.params.get? Cpu.modelKey = none ∧ Cpu.modelKey ∉ change.deleted := by
  have h : ((Configuration.ofWire informalGuest).toOption.bind fun current ↦
      (planUpdate ⟨8, 1, 0⟩ ⟨100, by decide, by decide⟩ current
        respelledGuest).result.toOption.bind fun change ↦
          some (current.cpu, change.params.keys)) =
      some (some {
        cores := some 4
        flags := some (.ofList [(.aes, .enabled)])
        model := some "epyc_ROME" }, ["cores"]) := by
    decide +kernel
  obtain ⟨current, hcurrent, h⟩ := exists_of_toOption_bind h
  obtain ⟨change, hchange, h⟩ := exists_of_toOption_bind h
  obtain ⟨hcpu, hkeys⟩ := Prod.mk.inj (Option.some.inj h)
  have hproper : canonical "Epyc Rome" ⟨8, 1, 0⟩ = .ok "EPYC-Rome" := by decide +kernel
  exact ⟨by decide +kernel, hproper, by decide +kernel, by decide +kernel, current, change,
    hcurrent, hchange, hkeys,
    ((canonical_isNormalForm ⟨8, 1, 0⟩).2.2.2 _ current respelledGuest _ _ hcpu rfl
      ⟨⟨_, _, rfl, rfl, by decide +kernel⟩, rfl⟩ fun name hname ↦
        ⟨_, Option.some.inj hname ▸ hproper⟩).2 change hchange⟩

end CpuModel

end GuestConfig
