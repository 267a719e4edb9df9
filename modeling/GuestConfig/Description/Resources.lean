import GuestConfig.Cpu.Basic
import GuestConfig.Description.Error
import GuestConfig.Memory
import GuestConfig.Unit.Size

/-!
# Describing the resources of a guest

A description gives the CPUs that a guest may run on as ranges, `0-3,8`, and its memory either as a
number of mebibytes or as a size with a unit, `4G`.

## What is here

* `CpuDescription` and `CpuDescription.cpu` — the virtual CPU.
* `MemorySize`, `MemoryDescription` and `MemoryDescription.memory` — the memory.  A size with a unit
  has to come out as a whole number of mebibytes; `MemorySize.inMebibytes_eq_ok_iff` says when.
-/

set_option autoImplicit false

namespace GuestConfig

/-! ## The virtual CPU -/

/-- A description of a virtual CPU. -/
structure CpuDescription where
  /-- The host CPUs that it may use; an empty text lifts the restriction. -/
  affinity : Option String := none
  /-- The cores of a socket. -/
  cores : Option UInt16 := none
  /-- The features that differ from the model. -/
  flags : Option CpuFlags := none
  /-- The host CPUs that it may keep busy. -/
  limit : Option UInt8 := none
  /-- Whether the guest sees NUMA nodes. -/
  numa : Option Bool := none
  /-- The sockets. -/
  sockets : Option UInt8 := none
  /-- The model. -/
  model : Option String := none
  /-- The weight against other guests. -/
  units : Option UInt32 := none
  /-- The cores that are plugged in when the guest boots. -/
  virtualCores : Option UInt16 := none
  deriving DecidableEq

namespace CpuDescription

/-- The affinity in a description. -/
def affinityOf (s : String) : Described Affinity :=
  (Affinity.parse s).mapError (.affinity s)

/-- The virtual CPU that is described. -/
def cpu (description : CpuDescription) : Described Cpu := do
  return {
    affinity := ← Described.optional affinityOf description.affinity
    cores := description.cores
    flags := description.flags
    limit := description.limit
    numa := description.numa
    sockets := description.sockets
    model := description.model
    units := description.units
    virtualCores := description.virtualCores }

/-- Reads a description. -/
def ofValue? (d : Dialect) (v : Value) : Option CpuDescription := do
  let fields ← v.fields? ["affinity", "cores", "flags", "limit", "numa", "sockets", "type",
    "units", "vcpus"]
  return {
    affinity := ← fields.optional "affinity" Value.text?
    cores := ← fields.optional "cores" Value.word?
    flags := ← fields.optional "flags" (CpuFlags.ofValue? d)
    limit := ← fields.optional "limit" Value.word?
    numa := ← fields.optional "numa" Value.flag?
    sockets := ← fields.optional "sockets" Value.word?
    model := ← fields.optional "type" Value.text?
    units := ← fields.optional "units" Value.word?
    virtualCores := ← fields.optional "vcpus" Value.word? }

/-- Writes a description. -/
def toValue (description : CpuDescription) : Value :=
  .object [
    ("affinity", .ofOption .text description.affinity),
    ("cores", .ofOption .ofWord description.cores),
    ("flags", .ofOption CpuFlags.toValue description.flags),
    ("limit", .ofOption .ofWord description.limit),
    ("numa", .ofOption .bool description.numa),
    ("sockets", .ofOption .ofWord description.sockets),
    ("type", .ofOption .text description.model),
    ("units", .ofOption .ofWord description.units),
    ("vcpus", .ofOption .ofWord description.virtualCores)]

end CpuDescription

/-! ## Memory -/

/-- An amount of memory in a description. -/
inductive MemorySize where
  /-- A number of mebibytes. -/
  | mebibytes (n : UInt32)
  /-- A size with a unit; without one it counts kibibytes. -/
  | size (text : String)
  deriving DecidableEq, Repr

namespace MemorySize

/-- The mebibytes that make up a number of kibibytes exactly. -/
def wholeMebibytes? (kib : UInt64) : Option UInt32 :=
  if SizeUnit.mebibyte.kibibytes ∣ kib.toNat then
    Word.ofNat? (kib.toNat / SizeUnit.mebibyte.kibibytes)
  else none

/-- The amount in mebibytes; `field` is where it stands. -/
def inMebibytes (field : String) : MemorySize → Described UInt32
  | mebibytes n => .ok n
  | size s => do
    let kib ← (parseSize s).mapError (.size field s)
    match wholeMebibytes? kib with
    | some n => .ok n
    | none => .error (.memorySize s)

/-- **A size is a number of mebibytes exactly if it reads as that many times 1024 kibibytes.** -/
theorem inMebibytes_eq_ok_iff {field s : String} {n : UInt32} :
    inMebibytes field (size s) = .ok n ↔
      ∃ kib, parseSize s = .ok kib ∧ kib.toNat = n.toNat * 1024 := by
  have hwhole (kib : UInt64) : wholeMebibytes? kib = some n ↔ kib.toNat = n.toNat * 1024 := by
    have hunit : SizeUnit.mebibyte.kibibytes = 1024 := rfl
    unfold wholeMebibytes?
    split
    · next h =>
      rw [hunit] at h
      rw [Word.ofNat?_eq_some_iff, hunit]
      change n.toNat = _ ↔ _
      omega
    · next h =>
      rw [hunit] at h
      refine ⟨fun h' ↦ by simp at h', fun h' ↦ absurd ⟨n.toNat, ?_⟩ h⟩
      rw [h', Nat.mul_comm]
  cases hs : parseSize s with
  | error e =>
    have : inMebibytes field (size s) = .error (.size field s e) := by
      rw [inMebibytes, hs]
      rfl
    simp [this]
  | ok kib =>
    have : inMebibytes field (size s) =
        match wholeMebibytes? kib with
        | some n => .ok n
        | none => .error (.memorySize s) := by
      rw [inMebibytes, hs]
      rfl
    rw [this]
    simp only [Except.ok.injEq, exists_eq_left', ← hwhole kib]
    cases wholeMebibytes? kib <;> simp

/-- Reads an amount. -/
def ofValue? : Value → Option MemorySize
  | .text s => some (size s)
  | v => v.word?.map mebibytes

/-- Writes an amount. -/
def toValue : MemorySize → Value
  | mebibytes n => .ofWord n
  | size s => s

end MemorySize

/-- A description of the memory. -/
structure MemoryDescription where
  /-- The capacity. -/
  capacity : Option MemorySize := none
  /-- The amount that the host may shrink it to. -/
  minimum : Option MemorySize := none
  /-- The weight against other guests. -/
  shares : Option UInt16 := none
  deriving DecidableEq, Repr

namespace MemoryDescription

/-- The memory that is described. -/
def memory (description : MemoryDescription) : Described Memory := do
  return {
    capacity := ← Described.optional (MemorySize.inMebibytes "memory.capacity")
      description.capacity
    minimum := ← Described.optional (MemorySize.inMebibytes "memory.minimum")
      description.minimum
    shares := description.shares }

/-- Reads a description. -/
def ofValue? (v : Value) : Option MemoryDescription := do
  let fields ← v.fields? ["capacity", "minimum", "shares"]
  return {
    capacity := ← fields.optional "capacity" MemorySize.ofValue?
    minimum := ← fields.optional "minimum" MemorySize.ofValue?
    shares := ← fields.optional "shares" Value.word? }

/-- Writes a description. -/
def toValue (description : MemoryDescription) : Value :=
  .object [
    ("capacity", .ofOption MemorySize.toValue description.capacity),
    ("minimum", .ofOption MemorySize.toValue description.minimum),
    ("shares", .ofOption .ofWord description.shares)]

end MemoryDescription

end GuestConfig
