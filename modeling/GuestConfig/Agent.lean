import GuestConfig.Plan.Step
import GuestConfig.Value.Reader

/-!
# The guest agent

A guest can run an agent that the host talks to over a channel of its own.  The settings of that
channel take effect when the guest boots.

## What is here

* `Agent` — the settings; an absent one keeps its current value, which is what `Agent.laidOver`
  says.
* `Agent.entries`, `Agent.ofOptions` — the settings as an option list, in the two directions.
* `Agent.plan` — the steps for the settings.
-/

set_option autoImplicit false

namespace GuestConfig

/-- The device that the agent listens on. -/
inductive AgentChannel where
  /-- An ISA serial port. -/
  | isa
  /-- A VirtIO serial port. -/
  | virtio
  deriving DecidableEq, Repr

instance : Token AgentChannel where
  members := [.isa, .virtio]
  name
    | .isa => "isa"
    | .virtio => "virtio"
  complete a := by cases a <;> decide
  distinct a b h := by cases a <;> cases b <;> simp_all

/-- The settings of the guest agent. -/
structure Agent where
  /-- Whether there is an agent. -/
  enabled : Option Bool := none
  /-- The device that it listens on. -/
  channel : Option AgentChannel := none
  /-- Whether file systems are frozen while a backup snapshot is taken. -/
  freezeOnBackup : Option Bool := none
  /-- Whether disks are trimmed after they were moved or cloned. -/
  trimCloned : Option Bool := none
  deriving DecidableEq, Repr

namespace Agent

/-- The settings that result when `agent` is asked for where `base` is in effect. -/
def laidOver (agent base : Agent) : Agent where
  enabled := agent.enabled.or base.enabled
  channel := agent.channel.or base.channel
  freezeOnBackup := agent.freezeOnBackup.or base.freezeOnBackup
  trimCloned := agent.trimCloned.or base.trimCloned

@[simp] theorem laidOver_self (agent : Agent) : agent.laidOver agent = agent := by
  simp [laidOver]

/-! ## As an option list -/

/-- The key of the settings. -/
def key : String :=
  "agent"

/-- The settings as options. -/
def entries (agent : Agent) : List Entry :=
  OptionList.positional (flagText (agent.enabled.getD false)) ++
    OptionList.optional "freeze-fs-on-backup" (agent.freezeOnBackup.map flagText) ++
    OptionList.optional "fstrim_cloned_disks" (agent.trimCloned.map flagText) ++
    OptionList.optional "type" (agent.channel.map Token.name)

/-- The settings as a text. -/
def text (agent : Agent) : String :=
  (OptionList.mk agent.entries).text

/-- Whether the agent is enabled stands first or under its name. -/
def readEnabled (options : OptionList) : Except WireError (Option Bool) :=
  match options.leading? with
  | some s =>
    match parseFlag? s with
    | some b => .ok (some b)
    | none => .error (.invalidOption "enabled" s)
  | none => options.flag? "enabled"

/-- The settings in a list of options. -/
def ofOptions (options : OptionList) : Except WireError Agent := do
  return {
    enabled := ← readEnabled options
    channel := ← options.token? "type"
    freezeOnBackup := ← options.flag? "freeze-fs-on-backup"
    trimCloned := ← options.flag? "fstrim_cloned_disks" }

/-- The settings of a guest. -/
def ofWire (w : Wire) : Except WireError (Option Agent) :=
  w.decoded? key fun s ↦ ofOptions (.parse s)

/-! ## Planning -/

/-- The steps for the settings that are asked for.  For a new guest only settings that say
something are worth a step. -/
def plan (current : Option Agent) (desired : Agent) : Draft :=
  let after := desired.laidOver (current.getD { })
  let unchanged : Bool :=
    match current with
    | some agent => agent.text = after.text
    | none => desired = { }
  if unchanged then [] else [.set key after.text true]

/-! ## As a document -/

/-- Reads the settings. -/
def ofValue? (d : Dialect) (v : Value) : Option Agent := do
  let fields ← v.fields? ["enabled", "agent_type", "freeze_fs_on_backup", "fstrim_cloned_disks"]
  return {
    enabled := ← fields.optional "enabled" Value.flag?
    channel := ← fields.optional "agent_type" (Value.token? d)
    freezeOnBackup := ← fields.optional "freeze_fs_on_backup" Value.flag?
    trimCloned := ← fields.optional "fstrim_cloned_disks" Value.flag? }

/-- Writes the settings. -/
def toValue (agent : Agent) : Value :=
  .object [
    ("enabled", .ofOption .bool agent.enabled),
    ("agent_type", .ofOption .ofToken agent.channel),
    ("freeze_fs_on_backup", .ofOption .bool agent.freezeOnBackup),
    ("fstrim_cloned_disks", .ofOption .bool agent.trimCloned)]

end Agent

end GuestConfig
