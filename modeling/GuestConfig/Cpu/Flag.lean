import GuestConfig.Sorted.Map
import GuestConfig.Text.Blank
import GuestConfig.Text.Split
import GuestConfig.Value.Reader

/-!
# CPU feature flags

Twelve features of a CPU model can be switched on or off one by one.  A flag that is not mentioned
keeps its state, and a flag can be returned to what the model has.

## What is here

* `CpuFlag` — the flags, in the order in which they are written.
* `FlagState` — on, off, or back to the model's own.
* `CpuFlags` — the flags that are mentioned, with their states; `CpuFlags.laidOver` lays one set on
  top of another.
* `CpuFlags.parse`, `CpuFlags.text?` — flags as `+aes;-pcid`, in the two directions.
-/

set_option autoImplicit false

namespace GuestConfig

open Text (trim splitOn)

/-! ## Flags -/

/-- A feature that can be switched. -/
inductive CpuFlag where
  /-- Clears buffers against data sampling. -/
  | mdClear
  /-- Process context identifiers. -/
  | pcid
  /-- Control of speculation. -/
  | specCtrl
  /-- Disabling of speculative stores. -/
  | ssbd
  /-- Barrier for branch prediction. -/
  | ibpb
  /-- Disabling of speculative stores, for guests. -/
  | virtSsbd
  /-- Disabling of speculative stores, on AMD. -/
  | amdSsbd
  /-- Speculative stores do no harm. -/
  | amdNoSsb
  /-- Pages of one gibibyte. -/
  | pdpe1gb
  /-- Flushing of translation buffers by the hypervisor. -/
  | hvTlbflush
  /-- Virtual machine control by the hypervisor. -/
  | hvEvmcs
  /-- Instructions for AES. -/
  | aes
  deriving DecidableEq, Repr

namespace CpuFlag

/-- The place of a flag in the order in which flags are written. -/
def rank : CpuFlag → Nat
  | mdClear => 0
  | pcid => 1
  | specCtrl => 2
  | ssbd => 3
  | ibpb => 4
  | virtSsbd => 5
  | amdSsbd => 6
  | amdNoSsb => 7
  | pdpe1gb => 8
  | hvTlbflush => 9
  | hvEvmcs => 10
  | aes => 11

theorem rank_inj {a b : CpuFlag} (h : a.rank = b.rank) : a = b := by
  cases a <;> cases b <;> simp_all [rank]

instance : LT CpuFlag := ⟨fun a b ↦ a.rank < b.rank⟩

instance : DecidableLT CpuFlag := fun a b ↦ Nat.decLt a.rank b.rank

instance : StrictOrder CpuFlag where
  irrefl a := Nat.lt_irrefl a.rank
  trans h₁ h₂ := Nat.lt_trans h₁ h₂
  connected h₁ h₂ := rank_inj (Nat.le_antisymm (Nat.not_lt.1 h₂) (Nat.not_lt.1 h₁))

instance : Token CpuFlag where
  members := [.mdClear, .pcid, .specCtrl, .ssbd, .ibpb, .virtSsbd, .amdSsbd, .amdNoSsb, .pdpe1gb,
    .hvTlbflush, .hvEvmcs, .aes]
  name
    | .mdClear => "md-clear"
    | .pcid => "pcid"
    | .specCtrl => "spec-ctrl"
    | .ssbd => "ssbd"
    | .ibpb => "ibpb"
    | .virtSsbd => "virt-ssbd"
    | .amdSsbd => "amd-ssbd"
    | .amdNoSsb => "amd-no-ssb"
    | .pdpe1gb => "pdpe1gb"
    | .hvTlbflush => "hv-tlbflush"
    | .hvEvmcs => "hv-evmcs"
    | .aes => "aes"
  complete a := by cases a <;> decide
  distinct a b h := by cases a <;> cases b <;> simp_all

/-- The key of a flag in a document. -/
def field (flag : CpuFlag) : String :=
  (Token.name flag).map fun c ↦ if c = '-' then '_' else c

end CpuFlag

/-- What is asked of a flag. -/
inductive FlagState where
  /-- The feature is on. -/
  | enabled
  /-- The feature is off. -/
  | disabled
  /-- The feature is as the model has it. -/
  | unset
  deriving DecidableEq, Repr

instance : Token FlagState where
  members := [.enabled, .disabled, .unset]
  name
    | .enabled => "enabled"
    | .disabled => "disabled"
    | .unset => "unset"
  complete a := by cases a <;> decide
  distinct a b h := by cases a <;> cases b <;> simp_all

/-- The sign in front of a flag that is on or off. -/
def FlagState.sign? : FlagState → Option Char
  | enabled => some '+'
  | disabled => some '-'
  | unset => none

/-! ## Sets of flags -/

/-- The flags that are mentioned, with their states. -/
abbrev CpuFlags : Type :=
  SortedMap CpuFlag FlagState

namespace CpuFlags

/-- The flags with one of them set, or no longer mentioned. -/
def set (flags : CpuFlags) (flag : CpuFlag) : Option FlagState → CpuFlags
  | some state => flags.insert flag state
  | none => flags.erase flag

/-- The flags of `base` with everything that `flags` mentions laid on top. -/
def laidOver (flags base : CpuFlags) : CpuFlags :=
  flags.toList.foldl (fun result e ↦ result.insert e.1 e.2) base

/-- One flag as it is written, if it is on or off. -/
def entryText? (e : CpuFlag × FlagState) : Option String :=
  e.2.sign?.map fun sign ↦ sign.toString ++ Token.name e.1

/-- Writes the flags, unless none is on or off. -/
def text? (flags : CpuFlags) : Option String :=
  let items := flags.toList.filterMap entryText?
  if items.isEmpty then none else some (String.intercalate ";" items)

/-- A flag that is mentioned, with its state; a flag without a sign is on. -/
def mention : List Char → FlagState × List Char
  | '+' :: name => (.enabled, name)
  | '-' :: name => (.disabled, name)
  | name => (.enabled, name)

/-- Reads flags; the last mention of a flag counts, and unknown flags are dropped. -/
def parse (s : String) : CpuFlags :=
  let items := ((splitOn ';' s.toList).map trim).filter (!·.isEmpty)
  .ofList (items.filterMap fun item ↦
    let (state, name) := mention item
    (Token.ofName? (String.ofList name)).map fun flag ↦ (flag, state))

/-! ## As a document -/

/-- Reads the flags. -/
def ofValue? (d : Dialect) (v : Value) : Option CpuFlags := do
  let fields ← v.fields? ((Token.members : List CpuFlag).map CpuFlag.field)
  let mentions ← (Token.members : List CpuFlag).mapM fun flag ↦ do
    let state ← fields.optional flag.field (Value.token? d)
    some (state.map fun state ↦ (flag, state))
  some (.ofList (mentions.filterMap id))

/-- Writes the flags, also those that are not mentioned. -/
def toValue (flags : CpuFlags) : Value :=
  .object ((Token.members : List CpuFlag).map fun flag ↦
    (flag.field, .ofOption .ofToken (flags.get? flag)))

end CpuFlags

end GuestConfig
