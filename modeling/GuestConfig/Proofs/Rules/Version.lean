import GuestConfig.Proofs.Frame
import Mathlib.Data.Prod.Lex

/-!
# Newer versions of the product

Two rules ask which version of the product is behind the API: a CPU model may have come with a later
version, and so did the upgrade of packages at the first boot.  Both ask for a version that is new
enough, and neither for one that is old enough, so that a configuration that was in order stays in
order when the product is upgraded.

## What is here

* `Version.numbers` — a version in the lexicographic order of its numbers, and
  `Version.atLeast_iff_numbers_le`: that order is the one that the rules ask about.
* `Cpu.validate_newer`, `CloudInit.validate_newer` — the two settings that a version matters for.
* `Configuration.validate_newer_version` — **what is in order for a version is in order for every
  newer one**, and CPU models keep their names.
-/

set_option autoImplicit false

namespace GuestConfig

namespace Version

/-- The numbers of a version, the first of which counts most. -/
def numbers (v : Version) : ℕ ×ₗ ℕ ×ₗ ℕ :=
  toLex (v.major.toNat, toLex (v.minor.toNat, v.patch.toNat))

/-- **A version is new enough exactly if its numbers are not smaller**, in lexicographic order. -/
theorem atLeast_iff_numbers_le {v other : Version} :
    v.atLeast other = true ↔ other.numbers ≤ v.numbers := by
  rw [atLeast_iff, numbers, numbers, Prod.Lex.toLex_le_toLex, Prod.Lex.toLex_le_toLex]

end Version

/-! ## The settings that a version matters for -/

section newer

variable {older newer : Version} (hle : newer.atLeast older = true)
include hle

/-- **The CPU of a guest**: a newer version still offers its model. -/
theorem Cpu.validate_newer {current : Option Cpu} {desired : Cpu}
    (h : desired.validate older current = .ok ()) : desired.validate newer current = .ok () := by
  simp only [validate, bind_unit_eq_ok_iff, requireOf_eq_ok_iff] at h ⊢
  obtain ⟨hcores, hsockets, hlimit, hunits, hmodel, hvirtualCores⟩ := h
  refine ⟨hcores, hsockets, hlimit, hunits, fun name hname ↦ ?_, hvirtualCores⟩
  obtain ⟨proper, hproper, -⟩ := map_eq_ok_iff.1 (hmodel name hname)
  exact map_eq_ok_iff.2 ⟨proper, CpuModel.canonical_mono hproper hle, rfl⟩

/-- **The cloud-init settings of a guest**: a newer version still upgrades packages. -/
theorem CloudInit.validate_newer {settings : CloudInit} (h : settings.validate older = .ok ()) :
    settings.validate newer = .ok () := by
  simp only [validate, bind_unit_eq_ok_iff, requireOf_eq_ok_iff, require_eq_ok_iff] at h ⊢
  obtain ⟨hcustom, haddressing, hupgrade⟩ := h
  exact ⟨hcustom, haddressing, fun b hb ↦ Version.atLeast_trans hle (hupgrade b hb)⟩

end newer

/-! ## Configurations -/

/-- **What is in order for a version is in order for every newer one**, on top of whatever is in
effect, and a CPU model that a version offers has the same name in every newer one. -/
theorem Configuration.validate_newer_version {older newer : Version}
    (hle : older.numbers ≤ newer.numbers) :
    (∀ (current : Option Configuration) (desired : Configuration),
      desired.validate older current = .ok () → desired.validate newer current = .ok ()) ∧
    ∀ name proper, CpuModel.canonical name older = .ok proper →
      CpuModel.canonical name newer = .ok proper := by
  have hatLeast := Version.atLeast_iff_numbers_le.2 hle
  refine ⟨fun current desired h ↦ ?_, fun name proper h ↦ CpuModel.canonical_mono h hatLeast⟩
  have hrules := validate_eq_ok_iff.1 h
  exact validate_eq_ok_iff.2 { hrules with
    cpu := fun cpu hcpu ↦ Cpu.validate_newer hatLeast (hrules.cpu cpu hcpu)
    cloudInit := fun settings hsettings ↦
      CloudInit.validate_newer hatLeast (hrules.cloudInit settings hsettings) }

/-- What is asked for that only recent versions offer, in both of the settings that ask. -/
def recentGuest : Configuration where
  cpu := some { model := some "epyc_genoa", virtualCores := some 4 }
  cloudInit := some { upgradePackages := some true }

/-- The cores of a guest that gets a recent CPU. -/
def recentCores : Configuration where
  cpu := some { cores := some 2, sockets := some 2 }

/-- A new generation of the product has smaller numbers after the first one, and is no reason to
refuse what was in order.  An older version refuses it: it does not have the model yet. -/
theorem Configuration.validate_newer_version_of_generation :
    recentGuest.validate ⟨8, 1, 9⟩ (some recentCores) =
        .error (.cpuTypeTooNew "EPYC-Genoa" ⟨8, 1, 9⟩) ∧
      (⟨8, 2, 9⟩ : Version).numbers ≤ (⟨9, 0, 0⟩ : Version).numbers ∧
      recentGuest.validate ⟨8, 2, 9⟩ (some recentCores) = .ok () ∧
      recentGuest.validate ⟨9, 0, 0⟩ (some recentCores) = .ok () ∧
      CpuModel.canonical "epyc_genoa" ⟨8, 2, 9⟩ = .ok "EPYC-Genoa" ∧
      CpuModel.canonical "epyc_genoa" ⟨9, 0, 0⟩ = .ok "EPYC-Genoa" := by
  have hle : (⟨8, 2, 9⟩ : Version).numbers ≤ (⟨9, 0, 0⟩ : Version).numbers :=
    Version.atLeast_iff_numbers_le.1 (by decide)
  have hvalid : recentGuest.validate ⟨8, 2, 9⟩ (some recentCores) = .ok () := by decide +kernel
  have hname : CpuModel.canonical "epyc_genoa" ⟨8, 2, 9⟩ = .ok "EPYC-Genoa" := by decide +kernel
  obtain ⟨hconfiguration, hmodel⟩ := Configuration.validate_newer_version hle
  exact ⟨by decide +kernel, hle, hvalid, hconfiguration _ _ hvalid, hname, hmodel _ _ hname⟩

end GuestConfig
