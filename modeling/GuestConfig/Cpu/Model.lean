import GuestConfig.Error.Rule

/-!
# CPU models

The model that a guest's CPU presents is one of a fixed list, and some models came with a later
version of the product.  Operators spell their names in many ways; case, hyphens, underscores and
spaces do not matter.

## What is here

* `CpuModel` and `CpuModel.all` — the models.
* `CpuModel.folded` — a name without what does not matter.
* `CpuModel.canonical` — the proper name of a model that a version offers.
* `CpuModel.standard` — the model of a guest that does not say.
-/

set_option autoImplicit false

namespace GuestConfig

/-- A CPU model. -/
structure CpuModel where
  /-- Its proper name. -/
  name : String
  /-- The first version that offers it. -/
  since : Version
  deriving DecidableEq, Repr

namespace CpuModel

/-- A model that every version offers. -/
def always (name : String) : CpuModel :=
  ⟨name, ⟨0, 0, 0⟩⟩

/-- The version that brought the levels of the x86-64 architecture. -/
def levelsVersion : Version :=
  ⟨8, 0, 0⟩

/-- A level of the x86-64 architecture. -/
def level (name : String) : CpuModel :=
  ⟨name, levelsVersion⟩

/-- A model that came with version 8.2. -/
def recent (name : String) : CpuModel :=
  ⟨name, ⟨8, 2, 0⟩⟩

/-- The models. -/
def all : List CpuModel := [
  always "486",
  always "athlon",
  always "Broadwell",
  always "Broadwell-IBRS",
  always "Broadwell-noTSX",
  always "Broadwell-noTSX-IBRS",
  always "Cascadelake-Server",
  always "Cascadelake-Server-noTSX",
  always "Cascadelake-Server-v2",
  always "Cascadelake-Server-v4",
  always "Cascadelake-Server-v5",
  always "Conroe",
  always "Cooperlake",
  always "Cooperlake-v2",
  always "core2duo",
  always "coreduo",
  always "EPYC",
  recent "EPYC-Genoa",
  always "EPYC-IBPB",
  always "EPYC-Milan",
  always "EPYC-Milan-v2",
  always "EPYC-Rome",
  always "EPYC-Rome-v2",
  always "EPYC-Rome-v3",
  always "EPYC-Rome-v4",
  always "EPYC-v3",
  always "EPYC-v4",
  recent "GraniteRapids",
  always "Haswell",
  always "Haswell-IBRS",
  always "Haswell-noTSX",
  always "Haswell-noTSX-IBRS",
  always "host",
  always "Icelake-Client",
  always "Icelake-Client-noTSX",
  always "Icelake-Server",
  always "Icelake-Server-noTSX",
  always "Icelake-Server-v3",
  always "Icelake-Server-v4",
  always "Icelake-Server-v5",
  always "Icelake-Server-v6",
  always "IvyBridge",
  always "IvyBridge-IBRS",
  always "KnightsMill",
  always "kvm32",
  always "kvm64",
  always "max",
  always "Nehalem",
  always "Nehalem-IBRS",
  always "Opteron_G1",
  always "Opteron_G2",
  always "Opteron_G3",
  always "Opteron_G4",
  always "Opteron_G5",
  always "Penryn",
  always "pentium",
  always "pentium2",
  always "pentium3",
  always "phenom",
  always "qemu32",
  always "qemu64",
  always "SandyBridge",
  always "SandyBridge-IBRS",
  always "SapphireRapids",
  recent "SapphireRapids-v2",
  always "Skylake-Client",
  always "Skylake-Client-IBRS",
  always "Skylake-Client-noTSX-IBRS",
  always "Skylake-Client-v4",
  always "Skylake-Server",
  always "Skylake-Server-IBRS",
  always "Skylake-Server-noTSX-IBRS",
  always "Skylake-Server-v4",
  always "Skylake-Server-v5",
  level "x86-64-v2",
  level "x86-64-v2-AES",
  level "x86-64-v3",
  level "x86-64-v4"]

/-- A name in small letters, without hyphens, underscores and spaces. -/
def folded (name : String) : List Char :=
  (name.toList.filter fun c ↦ c ≠ '-' ∧ c ≠ '_' ∧ c ≠ ' ').map Char.toLower

/-- The model with a name in any spelling. -/
def find? (name : String) : Option CpuModel :=
  all.find? fun model ↦ folded model.name = folded name

/-- The proper name of a model, if a version offers it. -/
def canonical (name : String) (version : Version) : Except RuleError String :=
  match find? name with
  | none => .error (.cpuTypeUnknown name)
  | some model =>
    if version.atLeast model.since then .ok model.name
    else .error (.cpuTypeTooNew model.name version)

/-- The model of a guest that does not say. -/
def standard (version : Version) : String :=
  if version.atLeast levelsVersion then "x86-64-v2-AES" else "kvm64"

/-- What one version offers, every later version offers under the same name. -/
theorem canonical_mono {name proper : String} {version later : Version}
    (h : canonical name version = .ok proper) (hle : later.atLeast version = true) :
    canonical name later = .ok proper := by
  unfold canonical at *
  split at h
  · cases h
  · next model hmodel =>
    split at h
    · next hsince => rw [if_pos (Version.atLeast_trans hle hsince)]; exact h
    · cases h

end CpuModel

end GuestConfig
