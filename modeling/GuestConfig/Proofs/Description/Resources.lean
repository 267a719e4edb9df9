import GuestConfig.Description.Resources
import GuestConfig.Proofs.Description.Conversion

/-!
# Descriptions of resources that mean one amount

An amount of memory is given as a number of mebibytes or as a size with a unit.  Parts of a kibibyte
are dropped when a size is read; parts of a mebibyte are not, so that such a size is refused.  The
CPUs that a guest may run on are given as ranges, and everything else is passed on as it is.

## What is here

* `MemorySize.inMebibytes_isExact`, `CpuDescription.affinityOf_isExact` — **the conversions are
  exact**.
* `MemorySize.hasOneMeaning_iff` — a size with one meaning is one that gives an amount.
* `CpuDescription.cpu_eq_ok_iff`, `MemoryDescription.memory_eq_ok_iff` — the whole of what is
  described.
-/

set_option autoImplicit false

namespace GuestConfig

/-! ## Amounts of memory -/

namespace MemorySize

/-- A size has one meaning: once it is read in kibibytes, it is a whole number of mebibytes, and
that number has 32 bits. -/
def HasOneMeaning : MemorySize → Prop
  | mebibytes _ => True
  | size s => ∃ kib, parseSize s = .ok kib ∧ 1024 ∣ kib.toNat ∧ kib.toNat / 1024 < UInt32.size

/-- The amount that is meant, in mebibytes. -/
inductive Gives : MemorySize → UInt32 → Prop
  /-- A number of mebibytes is meant as it is. -/
  | mebibytes (n : UInt32) : Gives (mebibytes n) n
  /-- A size is meant if it is that many mebibytes. -/
  | size {s : String} {kib : UInt64} {n : UInt32} (h : parseSize s = .ok kib)
    (whole : kib.toNat = n.toNat * 1024) : Gives (size s) n

/-- Why none is meant. -/
inductive Fails (field : String) : MemorySize → DescriptionError → Prop
  /-- The size is none. -/
  | size {s : String} {cause : UnitError} (h : parseSize s = .error cause) :
    Fails field (size s) (.size field s cause)
  /-- It is no number of mebibytes. -/
  | memorySize {s : String} {kib : UInt64} (h : parseSize s = .ok kib)
    (broken : ∀ n : UInt32, kib.toNat ≠ n.toNat * 1024) : Fails field (size s) (.memorySize s)

/-- **An amount of memory comes out as the one that is meant.** -/
theorem inMebibytes_isExact (field : String) (amount : MemorySize) :
    (amount.inMebibytes field).IsExact amount.Gives (Fails field amount) := by
  refine .of (fun n h ↦ ?_) (fun e h ↦ ?_) ?_
  · cases h with
    | mebibytes => rfl
    | size h whole => exact inMebibytes_eq_ok_iff.2 ⟨_, h, whole⟩
  · cases h with
    | size h => exact bind_eq_error_iff.2 (.inl (mapError_eq_error_iff.2 ⟨_, h, rfl⟩))
    | @memorySize s kib h broken =>
      refine bind_eq_error_iff.2 (.inr ⟨kib, mapError_eq_ok_iff.2 h, ?_⟩)
      cases hwhole : wholeMebibytes? kib with
      | none => rfl
      | some n =>
        have hok : inMebibytes field (.size s) = .ok n :=
          bind_eq_ok_iff.2 ⟨kib, mapError_eq_ok_iff.2 h, by rw [hwhole]⟩
        obtain ⟨kib', hkib', whole⟩ := inMebibytes_eq_ok_iff.1 hok
        obtain rfl := Except.ok.inj (h.symm.trans hkib')
        exact absurd whole (broken n)
  · cases amount with
    | mebibytes n => exact .inl ⟨n, .mebibytes n⟩
    | size s =>
      cases h : parseSize s with
      | error cause => exact .inr ⟨_, .size h⟩
      | ok kib =>
        by_cases hwhole : ∃ n : UInt32, kib.toNat = n.toNat * 1024
        · obtain ⟨n, whole⟩ := hwhole
          exact .inl ⟨n, .size h whole⟩
        · exact .inr ⟨_, .memorySize h (not_exists.1 hwhole)⟩

/-- **A size with one meaning gives an amount.** -/
theorem hasOneMeaning_iff {amount : MemorySize} :
    amount.HasOneMeaning ↔ ∃ n, amount.Gives n := by
  constructor
  · intro h
    cases amount with
    | mebibytes n => exact ⟨n, .mebibytes n⟩
    | size s =>
      obtain ⟨kib, hkib, ⟨n, hn⟩, hlt⟩ := h
      have hdiv : kib.toNat / 1024 = n := by omega
      refine ⟨.ofNat n, .size hkib ?_⟩
      rw [UInt32.toNat_ofNat_of_lt' (hdiv ▸ hlt), hn, Nat.mul_comm]
  · rintro ⟨n, h⟩
    cases h with
    | mebibytes => exact trivial
    | size h whole =>
      refine ⟨_, h, ⟨n.toNat, by rw [whole, Nat.mul_comm]⟩, ?_⟩
      rw [whole, Nat.mul_div_cancel _ (by decide)]
      exact n.toNat_lt

end MemorySize

/-- The memory that is meant. -/
inductive MemoryDescription.Gives (description : MemoryDescription) : Memory → Prop
  /-- The amounts are meant where they are given, and the weight is passed on. -/
  | memory {capacity minimum : Option UInt32}
    (hcapacity : Option.Rel MemorySize.Gives description.capacity capacity)
    (hminimum : Option.Rel MemorySize.Gives description.minimum minimum) :
    Gives description { capacity, minimum, shares := description.shares }

theorem MemoryDescription.memory_eq_ok_iff {description : MemoryDescription} {memory : Memory} :
    description.memory = .ok memory ↔ description.Gives memory := by
  have hamount (field : String) {part : Option MemorySize} {amount : Option UInt32} :
      Described.optional (MemorySize.inMebibytes field) part = .ok amount ↔
        Option.Rel MemorySize.Gives part amount :=
    Described.optional_eq_ok_iff fun size ↦ (MemorySize.inMebibytes_isExact field size).ok_iff
  simp only [MemoryDescription.memory, bind_eq_ok_iff, pure_eq_ok_iff, hamount]
  constructor
  · rintro ⟨capacity, hcapacity, minimum, hminimum, rfl⟩
    exact .memory hcapacity hminimum
  · rintro ⟨hcapacity, hminimum⟩
    exact ⟨_, hcapacity, _, hminimum, rfl⟩

/-! ## The virtual CPU -/

namespace CpuDescription

/-- **An affinity comes out as it reads.** -/
theorem affinityOf_isExact (s : String) :
    (affinityOf s).IsExact (Affinity.parse s = .ok ·)
      (fun e ↦ ∃ cause, Affinity.parse s = .error cause ∧ e = .affinity s cause) where
  ok_iff _ := mapError_eq_ok_iff
  error_iff e := by simp only [affinityOf, mapError_eq_error_iff, eq_comm (a := e)]

/-- The virtual CPU that is meant. -/
inductive Gives (description : CpuDescription) : Cpu → Prop
  /-- The affinity is meant as it reads, and everything else is passed on. -/
  | cpu {affinity : Option Affinity}
    (haffinity : Option.Rel (fun s a ↦ Affinity.parse s = .ok a) description.affinity affinity) :
    Gives description {
      affinity
      cores := description.cores
      flags := description.flags
      limit := description.limit
      numa := description.numa
      sockets := description.sockets
      model := description.model
      units := description.units
      virtualCores := description.virtualCores }

theorem cpu_eq_ok_iff {description : CpuDescription} {cpu : Cpu} :
    description.cpu = .ok cpu ↔ description.Gives cpu := by
  have haffinity {part : Option String} {affinity : Option Affinity} :
      Described.optional affinityOf part = .ok affinity ↔
        Option.Rel (fun s a ↦ Affinity.parse s = .ok a) part affinity :=
    Described.optional_eq_ok_iff fun s ↦ (affinityOf_isExact s).ok_iff
  simp only [CpuDescription.cpu, bind_eq_ok_iff, pure_eq_ok_iff, haffinity]
  constructor
  · rintro ⟨affinity, h, rfl⟩
    exact .cpu h
  · rintro ⟨h⟩
    exact ⟨_, h, rfl⟩

end CpuDescription

end GuestConfig
