import GuestConfig.Cpu.Affinity
import GuestConfig.Cpu.Flag
import GuestConfig.Cpu.Model
import GuestConfig.Plan.Step

/-!
# The virtual CPU

The topology of a guest's CPU, its model with the features that differ from it, its share of the
host, and the host CPUs that it may run on.

## What is here

* `Cpu` — the settings; a limit, a weight or a number of virtual cores of zero clears the setting.
* `Cpu.validate` — the rules: ranges, a model that the version offers, and no more virtual cores
  than cores and sockets make together.
* `Cpu.plan` — the steps.  Topology and model need a reboot; the model and its features share one
  key, so that they are compared and written together.
-/

set_option autoImplicit false

namespace GuestConfig

/-- The CPU settings of a guest. -/
structure Cpu where
  /-- The host CPUs that it may use. -/
  affinity : Option Affinity := none
  /-- The cores of a socket. -/
  cores : Option UInt16 := none
  /-- The features that differ from the model. -/
  flags : Option CpuFlags := none
  /-- The host CPUs that it may keep busy. -/
  limit : Option UInt8 := none
  /-- Whether the guest sees NUMA nodes. -/
  numa : Option Bool := none
  /-- The sockets. -/
  sockets : Option UInt8 := none
  /-- The model. -/
  model : Option String := none
  /-- The weight against other guests. -/
  units : Option UInt32 := none
  /-- The cores that are plugged in when the guest boots. -/
  virtualCores : Option UInt16 := none
  deriving DecidableEq

namespace Cpu

/-! ## Rules -/

/-- The most cores that a socket has. -/
def greatestCores : UInt16 := 128

/-- The most sockets. -/
def greatestSockets : UInt8 := 4

/-- The largest limit. -/
def greatestLimit : UInt8 := 128

/-- The largest weight. -/
def greatestUnits : UInt32 := 262144

/-- The cores of all sockets together, of settings on top of those in effect; an absent number
counts one. -/
def topology (current : Option Cpu) (desired : Cpu) : Nat :=
  let base := current.getD { }
  ((desired.cores.or base.cores).getD 1).toNat * ((desired.sockets.or base.sockets).getD 1).toNat

/-- Checks the settings that are asked for, on top of those in effect. -/
def validate (version : Version) (current : Option Cpu) (desired : Cpu) :
    Except RuleError Unit := do
  requireOf desired.cores fun n ↦ require (1 ≤ n && n ≤ greatestCores) (.cores n)
  requireOf desired.sockets fun n ↦ require (1 ≤ n && n ≤ greatestSockets) (.sockets n)
  requireOf desired.limit fun n ↦ require (n ≤ greatestLimit) (.cpuLimit n)
  requireOf desired.units fun n ↦ require (n ≤ greatestUnits) (.cpuUnits n)
  requireOf desired.model fun name ↦ (CpuModel.canonical name version).map fun _ ↦ ()
  let total := topology current desired
  requireOf desired.virtualCores fun n ↦
    require (n == 0 || n.toNat ≤ total) (.virtualCores n total)

/-! ## The stored settings -/

/-- The key of the model and its features. -/
def modelKey : String :=
  "cpu"

/-- The key of the affinity. -/
def affinityKey : String :=
  "affinity"

/-- The key of the cores. -/
def coresKey : String :=
  "cores"

/-- The key of the limit. -/
def limitKey : String :=
  "cpulimit"

/-- The key of the NUMA setting. -/
def numaKey : String :=
  "numa"

/-- The key of the sockets. -/
def socketsKey : String :=
  "sockets"

/-- The key of the weight. -/
def unitsKey : String :=
  "cpuunits"

/-- The key of the virtual cores. -/
def virtualCoresKey : String :=
  "vcpus"

/-- The model in a list of options: it stands first or under its name. -/
def readModel (options : OptionList) : Option String :=
  options.leading?.or (options.get? "cputype")

/-- The settings of a guest, if it has any. -/
def ofWire (w : Wire) : Except WireError (Option Cpu) := do
  let affinity ← w.decoded? affinityKey Affinity.parse
  let options := (← w.text? modelKey).map OptionList.parse
  let cpu : Cpu := {
    affinity := affinity
    cores := ← w.word? coresKey
    flags := (options.bind (·.get? "flags")).map CpuFlags.parse
    limit := ← w.word? limitKey
    numa := ← w.flag? numaKey
    sockets := ← w.word? socketsKey
    model := options.bind readModel
    units := ← w.word? unitsKey
    virtualCores := ← w.word? virtualCoresKey }
  return if cpu = { } then none else some cpu

/-! ## Planning -/

/-- The text for a model and its features, if there is anything to say; features alone belong to
the model that the version chooses. -/
def modelText? (version : Version) (model : Option String) (flags : CpuFlags) : Option String :=
  if model.isNone && flags.text?.isNone then none
  else some (OptionList.mk (
    OptionList.positional (model.getD (CpuModel.standard version)) ++
      OptionList.optional "flags" flags.text?)).text

/-- The model of a guest under its proper name, if it has one. -/
def properModel (version : Version) (name : String) : String :=
  match CpuModel.canonical name version with
  | .ok proper => proper
  | .error _ => name

/-- The steps for the model and its features, once the desired model has its proper name. -/
def planModelText (version : Version) (base : Cpu) (model : Option String)
    (flags : Option CpuFlags) : Draft :=
  let baseModel := base.model.map (properModel version)
  let baseFlags := base.flags.getD .empty
  let before := modelText? version baseModel baseFlags
  let after := modelText? version (model.or baseModel) ((flags.getD .empty).laidOver baseFlags)
  if before = after then []
  else
    match after with
    | some s => [.set modelKey (.text s) true]
    | none => [.delete modelKey true]

/-- The steps for the model and its features, if one of them is asked for. -/
def planModel (version : Version) (base desired : Cpu) : Draft :=
  match desired.model with
  | none => if desired.flags.isNone then [] else planModelText version base none desired.flags
  | some name =>
    match CpuModel.canonical name version with
    | .error e => [.refuse e]
    | .ok proper => planModelText version base (some proper) desired.flags

/-- The steps for the affinity.  An empty one is worth a step only if there is another. -/
def planAffinity (current desired : Option Affinity) : Draft :=
  match desired with
  | none => []
  | some affinity =>
    if current.getD .empty = affinity then []
    else [.set affinityKey (.text affinity.text) false]

/-- The steps for the settings that are asked for. -/
def plan (version : Version) (current : Option Cpu) (desired : Cpu) : Draft :=
  let base := current.getD { }
  Draft.setting coresKey (fun n ↦ some (.ofWord n)) true base.cores desired.cores ++
    Draft.setting socketsKey (fun n ↦ some (.ofWord n)) true base.sockets desired.sockets ++
    Draft.setting numaKey (fun b ↦ some (.ofFlag b)) true base.numa desired.numa ++
    Draft.setting limitKey Value.ofNonzero false base.limit desired.limit ++
    Draft.setting unitsKey Value.ofNonzero false base.units desired.units ++
    Draft.setting virtualCoresKey Value.ofNonzero false base.virtualCores desired.virtualCores ++
    planAffinity base.affinity desired.affinity ++
    planModel version base desired

/-! ## As a document -/

/-- Reads a set of numbers. -/
def numbers? (v : Value) : Option (SortedSet UInt16) :=
  (v.list? Value.word?).map .ofList

/-- Reads the settings. -/
def ofValue? (d : Dialect) (v : Value) : Option Cpu := do
  let fields ← v.fields? ["affinity", "cores", "flags", "limit", "numa", "sockets", "type",
    "units", "virtual_cores"]
  return {
    affinity := ← fields.optional "affinity" numbers?
    cores := ← fields.optional "cores" Value.word?
    flags := ← fields.optional "flags" (CpuFlags.ofValue? d)
    limit := ← fields.optional "limit" Value.word?
    numa := ← fields.optional "numa" Value.flag?
    sockets := ← fields.optional "sockets" Value.word?
    model := ← fields.optional "type" Value.text?
    units := ← fields.optional "units" Value.word?
    virtualCores := ← fields.optional "virtual_cores" Value.word? }

/-- Writes the settings. -/
def toValue (cpu : Cpu) : Value :=
  .object [
    ("affinity", .ofOption (fun s ↦ .ofList .ofWord s.toList) cpu.affinity),
    ("cores", .ofOption .ofWord cpu.cores),
    ("flags", .ofOption CpuFlags.toValue cpu.flags),
    ("limit", .ofOption .ofWord cpu.limit),
    ("numa", .ofOption .bool cpu.numa),
    ("sockets", .ofOption .ofWord cpu.sockets),
    ("type", .ofOption .text cpu.model),
    ("units", .ofOption .ofWord cpu.units),
    ("virtual_cores", .ofOption .ofWord cpu.virtualCores)]

end Cpu

end GuestConfig
