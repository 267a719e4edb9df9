import GuestConfig.CloudInit.Basic
import GuestConfig.Cpu.Basic
import GuestConfig.Memory
import GuestConfig.Proofs.Document.Table
import GuestConfig.Tag
import GuestConfig.Tpm.Basic
import GuestConfig.Agent

/-!
# Documents of settings read back

The settings of a guest that are no devices: the agent, the cloud-init settings, the CPU, the
memory, the tags and the TPM.  A document says all of them, also what is absent, and it keeps every
text as it is: nothing is brought into a normal form on the way.

The flags of a CPU are the one record without a field for each part.  They are a map, and the
document has a key for every flag that there is, also for those that are not mentioned.

## What is here

* `Agent.ofValue?_toValue`, `CloudInit.ofValue?_toValue`, `Memory.ofValue?_toValue`,
  `Tags.ofValue?_toValue`, `Tpm.ofValue?_toValue` — **settings read back.**
* `CpuFlags.ofValue?_toValue`, `Cpu.ofValue?_toValue` — the CPU and its flags.
-/

set_option autoImplicit false

namespace GuestConfig

/-! ## Agent, memory, tags and TPM -/

@[simp] theorem Agent.ofValue?_toValue (d : Dialect) (agent : Agent) :
    ofValue? d agent.toValue = some agent := by
  rw [ofValue?, toValue, Option.bind_eq_bind]
  refine Value.bind_fields?_object rfl (by simp) fun fields hget ↦ ?_
  simp [hget, List.lookup_cons, Value.nullable?_ofOption]

@[simp] theorem Agent.isNull_toValue (agent : Agent) : agent.toValue.isNull = false := rfl

@[simp] theorem Memory.ofValue?_toValue (memory : Memory) :
    ofValue? memory.toValue = some memory := by
  rw [ofValue?, toValue, Option.bind_eq_bind]
  refine Value.bind_fields?_object rfl (by simp) fun fields hget ↦ ?_
  simp [hget, List.lookup_cons, Value.nullable?_ofOption]

@[simp] theorem Memory.isNull_toValue (memory : Memory) : memory.toValue.isNull = false := rfl

@[simp] theorem Tags.ofValue?_toValue (tags : Tags) : ofValue? tags.toValue = some tags :=
  Value.list?_ofList_sorted Value.checked?_ofChecked tags

@[simp] theorem Tags.isNull_toValue (tags : Tags) : tags.toValue.isNull = false := rfl

@[simp] theorem Tpm.ofValue?_toValue (d : Dialect) (tpm : Tpm) :
    ofValue? d tpm.toValue = some tpm := by
  rw [ofValue?, toValue, Option.bind_eq_bind]
  refine Value.bind_fields?_object rfl (by simp) fun fields hget ↦ ?_
  simp [hget, List.lookup_cons]

@[simp] theorem Tpm.isNull_toValue (tpm : Tpm) : tpm.toValue.isNull = false := rfl

/-! ## Cloud-init -/

@[simp] theorem Snippet.ofValue?_toValue (snippet : Snippet) :
    ofValue? snippet.toValue = some snippet := by
  rw [ofValue?, toValue, Option.bind_eq_bind]
  refine Value.bind_fields?_object rfl (by simp) fun fields hget ↦ ?_
  simp [hget, List.lookup_cons]

@[simp] theorem Snippet.isNull_toValue (snippet : Snippet) : snippet.toValue.isNull = false := rfl

@[simp] theorem CustomSections.ofValue?_toValue (sections : CustomSections) :
    ofValue? sections.toValue = some sections := by
  rw [ofValue?, toValue, Option.bind_eq_bind]
  refine Value.bind_fields?_object rfl (by simp) fun fields hget ↦ ?_
  simp [hget, List.lookup_cons, Value.nullable?_ofOption]

@[simp] theorem CustomSections.isNull_toValue (sections : CustomSections) :
    sections.toValue.isNull = false := rfl

@[simp] theorem Addressing.ofValue?_toValue (a : Addressing) : ofValue? a.toValue = some a := by
  rw [ofValue?, toValue, Option.bind_eq_bind]
  refine Value.bind_fields?_object rfl (by simp) fun fields hget ↦ ?_
  simp [hget, List.lookup_cons, Value.nullable?_ofOption]

namespace CloudInit

@[simp] theorem dnsOfValue?_dnsToValue (dns : NameResolution) :
    dnsOfValue? (dnsToValue dns) = some dns := by
  rw [dnsOfValue?, dnsToValue, Option.bind_eq_bind]
  refine Value.bind_fields?_object rfl (by simp) fun fields hget ↦ ?_
  simp [hget, List.lookup_cons, Value.nullable?_ofOption]

@[simp] theorem isNull_dnsToValue (dns : NameResolution) : (dnsToValue dns).isNull = false := rfl

/-- **The cloud-init settings read back.** -/
@[simp] theorem ofValue?_toValue (settings : CloudInit) :
    ofValue? settings.toValue = some settings := by
  rw [ofValue?, toValue, Option.bind_eq_bind]
  refine Value.bind_fields?_object rfl (by simp) fun fields hget ↦ ?_
  simp [hget, List.lookup_cons, Value.nullable?_ofOption, Value.slotMap?_ofSlotMap]

@[simp] theorem isNull_toValue (settings : CloudInit) : settings.toValue.isNull = false := rfl

end CloudInit

/-! ## CPU -/

namespace CpuFlags

/-- **The flags of a CPU read back**, each under a key of its own. -/
@[simp] theorem ofValue?_toValue (d : Dialect) (flags : CpuFlags) :
    ofValue? d flags.toValue = some flags := by
  have hdistinct : ((Token.members : List CpuFlag).map CpuFlag.field).Nodup := by decide +kernel
  rw [ofValue?, toValue, Option.bind_eq_bind]
  refine Value.bind_fields?_object rfl hdistinct fun fields hget ↦ ?_
  let mention (flag : CpuFlag) : Option (CpuFlag × FlagState) :=
    (flags.get? flag).map fun state ↦ (flag, state)
  have hfield (flag : CpuFlag) :
      fields.optional flag.field (Value.token? d) = some (flags.get? flag) := by
    have hlookup := SortedMap.lookup_of_mem
      (List.mem_map_of_mem
        (f := fun flag ↦ (CpuFlag.field flag, Value.ofOption .ofToken (flags.get? flag)))
        (Token.complete flag))
      hdistinct
    rw [Fields.optional_eq, hget, hlookup, Option.elim_some]
    exact Value.nullable?_ofOption fun state _ ↦ ⟨Value.token?_ofToken d state, rfl⟩
  have hmentions : ((Token.members : List CpuFlag).mapM fun flag ↦ do
      let state ← fields.optional flag.field (Value.token? d)
      some (state.map fun state ↦ (flag, state))) = some (Token.members.map mention) := by
    rw [mapM_eq_some_iff, List.map_map]
    refine List.map_congr_left fun flag _ ↦ ?_
    rw [hfield]
    rfl
  have hmem {flag : CpuFlag} {state : FlagState} :
      (flag, state) ∈ (Token.members.map mention).filterMap id ↔ flags.get? flag = some state := by
    simp [mention, Token.complete]
  rw [hmentions, Option.bind_eq_bind, Option.bind_some]
  refine congrArg some (SortedMap.ext fun flag ↦ Option.ext fun state ↦ ?_)
  rw [SortedMap.get?_ofList_eq_some_iff, hmem]
  intro b c hb hc
  exact Option.some.inj ((hmem.1 hb).symm.trans (hmem.1 hc))

@[simp] theorem isNull_toValue (flags : CpuFlags) : flags.toValue.isNull = false := rfl

end CpuFlags

/-- **The CPU settings read back.** -/
@[simp] theorem Cpu.ofValue?_toValue (d : Dialect) (cpu : Cpu) :
    ofValue? d cpu.toValue = some cpu := by
  have hnumbers (s : SortedSet UInt16) : numbers? (.ofList .ofWord s.toList) = some s :=
    Value.list?_ofList_sorted Value.word?_ofWord s
  rw [ofValue?, toValue, Option.bind_eq_bind]
  refine Value.bind_fields?_object rfl (by simp) fun fields hget ↦ ?_
  simp [hget, List.lookup_cons, Value.nullable?_ofOption, hnumbers]

@[simp] theorem Cpu.isNull_toValue (cpu : Cpu) : cpu.toValue.isNull = false := rfl

end GuestConfig
