import GuestConfig.Proofs.Cpu.Affinity
import GuestConfig.Proofs.Cpu.Flag
import GuestConfig.Proofs.Frame
import GuestConfig.Proofs.Wire.Settling

/-!
# A CPU that was planned is settled

Most settings of the CPU have a key of their own.  The model and its features share one: they are
read from one text, merged with what is asked for, and written as one text again, in which the model
stands first whatever name it had before.

## What is here

* `CpuModel.canonical_canonical` — the proper name of a model is known under that name.
* `Cpu.storedModel_modelText?`, `Cpu.storedFlags_modelText?` — the model and its features read back.
* `Cpu.exists_planModel` — **the model and its features are settled.**
* `Cpu.settled`, `Cpu.exists_settled` — the CPU of a stored object after it was planned.
* `Cpu.settles` — **the CPU is settled.**
-/

set_option autoImplicit false

namespace GuestConfig

open OptionList (IsCleanValue get?_append get?_optional get?_positional isClean_append
  isClean_optional isClean_positional isCleanValue_of_isWord parse_text parse_text_of_isClean)
open Text (isWord)

/-! ## Models -/

namespace CpuModel

/-- **The proper name of a model is known under that name.** -/
theorem canonical_canonical {name proper : String} {version : Version}
    (h : canonical name version = .ok proper) : canonical proper version = .ok proper := by
  unfold canonical at h
  split at h
  · cases h
  · next model hmodel =>
    split at h
    · next hsince =>
      obtain rfl := Except.ok.inj h
      have hfolded : folded model.name = folded name := by simpa using List.find?_some hmodel
      have hfind : find? model.name = some model := by rw [← hmodel, find?, find?, hfolded]
      rw [canonical, hfind]
      exact if_pos hsince
    · cases h

theorem isWord_of_canonical {name proper : String} {version : Version}
    (h : canonical name version = .ok proper) : isWord proper = true ∧ proper ≠ "" := by
  have hall : all.all (fun model ↦ isWord model.name && model.name != "") = true := by
    decide +kernel
  unfold canonical at h
  split at h
  · cases h
  · next model hmodel =>
    split at h
    · obtain rfl := Except.ok.inj h
      simpa using List.all_eq_true.1 hall model (List.mem_of_find?_eq_some hmodel)
    · cases h

theorem isWord_standard (version : Version) : isWord (standard version) = true := by
  unfold standard
  split <;> decide

end CpuModel

namespace Cpu

/-! ## The text of the model -/

/-- The model in a stored text. -/
def storedModel (s : Option String) : Option String :=
  (s.map OptionList.parse).bind readModel

/-- The features in a stored text. -/
def storedFlags (s : Option String) : Option CpuFlags :=
  ((s.map OptionList.parse).bind (·.get? "flags")).map CpuFlags.parse

/-- A model that can stand first in a list of options. -/
def IsLeadingModel (name : String) : Prop :=
  IsCleanValue name ∧ '=' ∉ name.toList

theorem isLeadingModel_of_isWord {name : String} (h : isWord name = true) : IsLeadingModel name :=
  ⟨isCleanValue_of_isWord h, Text.equals_not_mem_of_isWord h⟩

theorem exists_of_storedModel {s : Option String} {name : String} (h : storedModel s = some name) :
    ∃ text, s = some text ∧ ∃ e ∈ (OptionList.parse text).entries, e.value = name := by
  obtain ⟨options, hoptions, hmodel⟩ := Option.bind_eq_some_iff.1 h
  obtain ⟨text, rfl, rfl⟩ := Option.map_eq_some_iff.1 hoptions
  refine ⟨text, rfl, ?_⟩
  rcases Option.or_eq_some_iff.1 hmodel with hleading | ⟨-, hget⟩
  · exact ⟨_, OptionList.exists_of_leading? hleading, rfl⟩
  · exact ⟨_, OptionList.exists_of_get? hget, rfl⟩

theorem isLeadingModel_of_storedModel {w : Wire} {s : Option String} {name : String}
    (hs : w.text? modelKey = .ok s) (hplain : w.HasPlainOptions modelKey)
    (h : storedModel s = some name) : IsLeadingModel name := by
  obtain ⟨s, rfl, e, he, rfl⟩ := exists_of_storedModel h
  exact ⟨(OptionList.isCleanValue_of_mem_parse he).1, hplain s hs e he⟩

theorem isLeadingModel_properModel {version : Version} {name : String} (h : IsLeadingModel name) :
    IsLeadingModel (properModel version name) := by
  unfold properModel
  split
  · next proper hproper => exact isLeadingModel_of_isWord (CpuModel.isWord_of_canonical hproper).1
  · exact h

/-- The list of options for a model and its features. -/
theorem parse_modelText? {version : Version} {model : Option String} {flags : CpuFlags} {s : String}
    (h : modelText? version model flags = some s)
    (hmodel : ∀ name, model = some name → IsLeadingModel name) :
    OptionList.parse s = .mk ((if model.getD (CpuModel.standard version) = "" then []
      else OptionList.positional (model.getD (CpuModel.standard version))) ++
        OptionList.optional "flags" flags.text?) := by
  have hleading : IsLeadingModel (model.getD (CpuModel.standard version)) := by
    cases model with
    | none => exact isLeadingModel_of_isWord (CpuModel.isWord_standard version)
    | some name => exact hmodel name rfl
  have hflags : OptionList.IsClean (OptionList.optional "flags" flags.text?) :=
    isClean_optional (by decide) fun s hs ↦
      isCleanValue_of_isWord (CpuFlags.isWord_text? hs)
  unfold modelText? at h
  split at h
  · cases h
  · obtain rfl := Option.some.inj h
    generalize model.getD (CpuModel.standard version) = name at hleading
    by_cases hname : name = ""
    · have hclean : ∀ e ∈ OptionList.positional name ++ OptionList.optional "flags" flags.text?,
          e.IsClean := by
        intro e he
        rcases List.mem_append.1 he with he | he
        · obtain rfl := List.mem_singleton.1 he
          exact ⟨hleading.1.comma, hleading.1.trimmed, fun _ ↦ hleading.2, nofun⟩
        · exact (hflags e he).1
      -- a model without a name leaves an empty entry, which is lost
      have hlost : (OptionList.positional name).filter (fun e ↦ !e.text.toList.isEmpty) = [] := by
        rw [hname]
        decide
      have hkept : (OptionList.optional "flags" flags.text?).filter
          (fun e ↦ !e.text.toList.isEmpty) = OptionList.optional "flags" flags.text? :=
        List.filter_eq_self.2 fun e he ↦ by simpa using (hflags e he).2
      rw [parse_text hclean, if_pos hname, List.filter_append, hlost, hkept]
    · rw [if_neg hname, parse_text_of_isClean
        (isClean_append.2 ⟨isClean_positional hleading.1 hleading.2 hname, hflags⟩)]

theorem modelText?_eq_none_iff {version : Version} {model : Option String} {flags : CpuFlags} :
    modelText? version model flags = none ↔ model = none ∧ flags.text? = none := by
  simp [modelText?]

/-- **The model reads back**, unless it has no name. -/
theorem storedModel_modelText? {version : Version} {model : Option String} {flags : CpuFlags}
    {s : String} (h : modelText? version model flags = some s)
    (hmodel : ∀ name, model = some name → IsLeadingModel name) :
    storedModel (some s) =
      if model.getD (CpuModel.standard version) = "" then none
      else some (model.getD (CpuModel.standard version)) := by
  rw [storedModel, Option.map_some, Option.bind_some, parse_modelText? h hmodel, readModel]
  split
  · cases flags.text? <;> rfl
  · rfl

/-- **The features read back.** -/
theorem storedFlags_modelText? {version : Version} {model : Option String} {flags : CpuFlags}
    {s : String} (h : modelText? version model flags = some s)
    (hmodel : ∀ name, model = some name → IsLeadingModel name) :
    (storedFlags (some s)).getD .empty = flags.shown := by
  have hget : (OptionList.parse s).get? "flags" = flags.text? := by
    rw [parse_modelText? h hmodel, get?_append, get?_optional]
    split <;> rfl
  rw [storedFlags, Option.map_some, Option.bind_some, hget]
  cases htext : flags.text? with
  | none => exact (CpuFlags.shown_eq_empty htext).symm
  | some t => exact CpuFlags.parse_text? htext

/-! ## Planning the model once more -/

theorem planModelText_eq_nil {version : Version} {base : Cpu} {model : Option String}
    {flags : Option CpuFlags} (merged : CpuFlags)
    (hmodel : model.or (base.model.map (properModel version)) =
      base.model.map (properModel version))
    (hflags : base.flags.getD .empty = ((flags.getD .empty).laidOver merged).shown) :
    planModelText version base model flags = [] := by
  have htext : ((flags.getD .empty).laidOver (base.flags.getD .empty)).text? =
      (base.flags.getD .empty).text? := by
    rw [hflags, ← CpuFlags.text?_shown, CpuFlags.shown_laidOver_shown]
  have hsame : modelText? version (model.or (base.model.map (properModel version)))
      ((flags.getD .empty).laidOver (base.flags.getD .empty)) =
        modelText? version (base.model.map (properModel version)) (base.flags.getD .empty) := by
    rw [modelText?, modelText?, hmodel, htext]
  exact if_pos hsame.symm

/-- A model that has its proper name is settled, with its features. -/
theorem exists_planModelText {w w' : Wire} {version : Version} {base : Cpu} {model : Option String}
    {flags : Option CpuFlags} {s : Option String} (hs : w.text? modelKey = .ok s)
    (hbase : base.model = storedModel s ∧ base.flags = storedFlags s)
    (hplain : w.HasPlainOptions modelKey)
    (hmodel : ∀ name, model = some name → CpuModel.canonical name version = .ok name)
    (hafter : w'.get? modelKey =
      ((planModelText version base model flags).effect modelKey).applyTo (w.get? modelKey)) :
    ∃ s', w'.text? modelKey = .ok s' ∧ ∀ base' : Cpu, base'.model = storedModel s' →
      base'.flags = storedFlags s' → planModelText version base' model flags = [] := by
  have hleading (name : String) (h : model.or (base.model.map (properModel version)) = some name) :
      IsLeadingModel name := by
    rcases Option.or_eq_some_iff.1 h with hname | ⟨-, hname⟩
    · exact isLeadingModel_of_isWord (CpuModel.isWord_of_canonical (hmodel name hname)).1
    · obtain ⟨stored, hstored, rfl⟩ := Option.map_eq_some_iff.1 hname
      rw [hbase.1] at hstored
      exact isLeadingModel_properModel (isLeadingModel_of_storedModel hs hplain hstored)
  simp only [planModelText] at hafter
  split at hafter
  · next hsame =>
    refine ⟨s, (Wire.text?_congr hafter).trans hs, fun base' hmodel' hflags' ↦ ?_⟩
    rw [planModelText, hmodel', hflags', ← hbase.1, ← hbase.2]
    exact if_pos hsame
  · split at hafter
    · next text htext =>
      have hstored : w'.text? modelKey = .ok (some text) :=
        Wire.text?_of_get? (by simpa [Step.effect] using hafter)
      refine ⟨some text, hstored, fun base' hmodel' hflags' ↦
        planModelText_eq_nil (base.flags.getD .empty) ?_ ?_⟩
      · rw [hmodel', storedModel_modelText? htext hleading]
        cases model with
        | none => rfl
        | some name =>
          have hproper := hmodel name rfl
          have hne : name ≠ "" := (CpuModel.isWord_of_canonical hproper).2
          simp [hne, properModel, hproper]
      · rw [hflags', storedFlags_modelText? htext hleading]
    · next hnone =>
      have hstored : w'.text? modelKey = .ok none :=
        Wire.field?_of_get?_none (by simpa [Step.effect] using hafter)
      obtain ⟨hmodel, hflags⟩ := modelText?_eq_none_iff.1 hnone
      refine ⟨none, hstored, fun base' hmodel' hflags' ↦
        planModelText_eq_nil (base.flags.getD .empty) ?_ ?_⟩
      · rw [(Option.or_eq_none_iff.1 hmodel).1, Option.none_or]
      · rw [hflags', CpuFlags.shown_eq_empty hflags]
        rfl

/-- **The model and its features are settled.** -/
theorem exists_planModel {w w' : Wire} {version : Version} {base desired : Cpu} {s : Option String}
    (hs : w.text? modelKey = .ok s)
    (hbase : base.model = storedModel s ∧ base.flags = storedFlags s)
    (hplain : w.HasPlainOptions modelKey)
    (hmodel : ∀ name, desired.model = some name →
      ∃ proper, CpuModel.canonical name version = .ok proper)
    (hafter : w'.get? modelKey =
      ((planModel version base desired).effect modelKey).applyTo (w.get? modelKey)) :
    ∃ s', w'.text? modelKey = .ok s' ∧ ∀ base' : Cpu, base'.model = storedModel s' →
      base'.flags = storedFlags s' → planModel version base' desired = [] := by
  unfold planModel at hafter ⊢
  cases hdesired : desired.model with
  | none =>
    rw [hdesired] at hafter
    dsimp only at hafter ⊢
    split at hafter
    · next hflags =>
      exact ⟨s, (Wire.text?_congr hafter).trans hs, fun _ _ _ ↦ if_pos hflags⟩
    · next hflags =>
      simp only [if_neg hflags]
      exact exists_planModelText hs hbase hplain
        (fun _ hnone ↦ absurd hnone (Option.some_ne_none _).symm) hafter
  | some name =>
    obtain ⟨proper, hproper⟩ := hmodel name hdesired
    rw [hdesired] at hafter
    simp only [hproper] at hafter ⊢
    refine exists_planModelText hs hbase hplain (fun name hname ↦ ?_) hafter
    obtain rfl := Option.some.inj hname
    exact CpuModel.canonical_canonical hproper

/-- The affinity is settled. -/
theorem exists_planAffinity {w w' : Wire} {current desired : Option Affinity}
    (h : w.decoded? affinityKey Affinity.parse = .ok current)
    (hafter : w'.get? affinityKey =
      ((planAffinity current desired).effect affinityKey).applyTo (w.get? affinityKey)) :
    ∃ after, w'.decoded? affinityKey Affinity.parse = .ok after ∧
      planAffinity after desired = [] := by
  refine Wire.exists_decoded? h hafter ?_
  unfold planAffinity
  cases desired with
  | none => exact rfl
  | some affinity =>
    dsimp only
    split
    · next hsame => simpa [Effect.Settles] using hsame
    · simp [Step.effect, Effect.Settles, Affinity.parse_text]

/-! ## The settings -/

/-- The settings of a stored object, one by one. -/
structure Holds (w : Wire) (cpu : Cpu) : Prop where
  affinity : w.decoded? affinityKey Affinity.parse = .ok cpu.affinity
  cores : w.word? coresKey = .ok cpu.cores
  limit : w.word? limitKey = .ok cpu.limit
  numa : w.flag? numaKey = .ok cpu.numa
  sockets : w.word? socketsKey = .ok cpu.sockets
  modelText : ∃ s, w.text? modelKey = .ok s ∧ cpu.model = storedModel s ∧ cpu.flags = storedFlags s
  units : w.word? unitsKey = .ok cpu.units
  virtualCores : w.word? virtualCoresKey = .ok cpu.virtualCores

theorem ofWire_eq_ok_iff {w : Wire} {r : Option Cpu} :
    ofWire w = .ok r ↔ Holds w (r.getD { }) ∧ r ≠ some { } := by
  simp only [ofWire, bind_eq_ok_iff, pure_eq_ok_iff, ite_none_eq_iff]
  constructor
  · rintro ⟨affinity, haffinity, s, hs, cores, hcores, limit, hlimit, numa, hnuma, sockets,
      hsockets, units, hunits, virtualCores, hvirtualCores, hr, hne⟩
    rw [← hr]
    exact ⟨⟨haffinity, hcores, hlimit, hnuma, hsockets, ⟨s, hs, rfl, rfl⟩, hunits,
      hvirtualCores⟩, hne⟩
  · rintro ⟨h, hne⟩
    obtain ⟨s, hs, hmodel, hflags⟩ := h.modelText
    refine ⟨_, h.affinity, _, hs, _, h.cores, _, h.limit, _, h.numa, _, h.sockets, _, h.units, _,
      h.virtualCores, ?_, hne⟩
    generalize r.getD { } = cpu at hmodel hflags
    cases cpu
    subst hmodel hflags
    rfl

/-- Every setting is planned under its key. -/
theorem effect_plan (version : Version) (current : Option Cpu) (desired : Cpu) :
    let base := current.getD { }
    let draft := plan version current desired
    draft.effect coresKey = Draft.effect coresKey
        (.setting coresKey (fun n ↦ some (.ofWord n)) true base.cores desired.cores) ∧
      draft.effect socketsKey = Draft.effect socketsKey
        (.setting socketsKey (fun n ↦ some (.ofWord n)) true base.sockets desired.sockets) ∧
      draft.effect numaKey = Draft.effect numaKey
        (.setting numaKey (fun b ↦ some (.ofFlag b)) true base.numa desired.numa) ∧
      draft.effect limitKey = Draft.effect limitKey
        (.setting limitKey Value.ofNonzero false base.limit desired.limit) ∧
      draft.effect unitsKey = Draft.effect unitsKey
        (.setting unitsKey Value.ofNonzero false base.units desired.units) ∧
      draft.effect virtualCoresKey = Draft.effect virtualCoresKey
        (.setting virtualCoresKey Value.ofNonzero false base.virtualCores desired.virtualCores) ∧
      draft.effect affinityKey = (planAffinity base.affinity desired.affinity).effect affinityKey ∧
      draft.effect modelKey = (planModel version base desired).effect modelKey := by
  have haffinity (key : String) (h : key ≠ affinityKey) :
      (planAffinity (current.getD { }).affinity desired.affinity).effect key = .keep :=
    Draft.effect_eq_keep (p := (· = affinityKey)) (touchesOnly_planAffinity _ _ rfl) h
  have hmodel (key : String) (h : key ≠ modelKey) :
      (planModel version (current.getD { }) desired).effect key = .keep :=
    Draft.effect_eq_keep (p := (· = modelKey)) (touchesOnly_planModel _ _ _ rfl) h
  refine ⟨?_, ?_, ?_, ?_, ?_, ?_, ?_, ?_⟩ <;>
  simp (disch := decide) only [plan, Draft.effect_append, Draft.effect_setting_of_ne, haffinity,
    hmodel, Effect.keep_andThen, Effect.andThen_keep]

/-- The settings after they were planned, given what became of the affinity and of the text of the
model. -/
def settled (base desired : Cpu) (affinity : Option Affinity) (s : Option String) : Cpu where
  affinity := affinity
  cores := desired.cores.or base.cores
  flags := storedFlags s
  limit := Draft.settled Value.ofNonzero base.limit desired.limit
  numa := Draft.settled (fun b ↦ some (.ofFlag b)) base.numa desired.numa
  sockets := desired.sockets.or base.sockets
  model := storedModel s
  units := Draft.settled Value.ofNonzero base.units desired.units
  virtualCores := Draft.settled Value.ofNonzero base.virtualCores desired.virtualCores

/-- The rules look at the topology only, after it was laid over. -/
theorem validate_congr {version : Version} {current current' : Option Cpu} {desired : Cpu}
    (hcores : desired.cores.or (current'.getD { }).cores =
      desired.cores.or (current.getD { }).cores)
    (hsockets : desired.sockets.or (current'.getD { }).sockets =
      desired.sockets.or (current.getD { }).sockets) :
    desired.validate version current' = desired.validate version current := by
  have htopology : topology current' desired = topology current desired := by
    simp only [topology, hcores, hsockets]
  rw [validate, validate, htopology]

theorem exists_canonical_of_validate {version : Version} {current : Option Cpu} {desired : Cpu}
    (h : desired.validate version current = .ok ()) {name : String}
    (hname : desired.model = some name) :
    ∃ proper, CpuModel.canonical name version = .ok proper := by
  simp only [validate, bind_unit_eq_ok_iff, requireOf_eq_ok_iff] at h
  obtain ⟨proper, hproper, -⟩ := map_eq_ok_iff.1 (h.2.2.2.2.1 name hname)
  exact ⟨proper, hproper⟩

section settled

variable {w w' : Wire} {version : Version}

/-- The text of the model can still be read, whatever is planned for it. -/
theorem exists_modelText {base desired : Cpu} {s : Option String} (hs : w.text? modelKey = .ok s)
    (hafter : w'.get? modelKey =
      ((planModel version base desired).effect modelKey).applyTo (w.get? modelKey)) :
    ∃ s', w'.text? modelKey = .ok s' := by
  have hkeep (h : w'.get? modelKey = w.get? modelKey) : ∃ s', w'.text? modelKey = .ok s' :=
    ⟨s, (Wire.text?_congr h).trans hs⟩
  have htext {model : Option String} {flags : Option CpuFlags}
      (h : w'.get? modelKey = ((planModelText version base model flags).effect modelKey).applyTo
        (w.get? modelKey)) : ∃ s', w'.text? modelKey = .ok s' := by
    simp only [planModelText] at h
    split at h
    · exact hkeep h
    · split at h
      · exact ⟨_, Wire.text?_of_get? (by simpa [Step.effect] using h)⟩
      · exact ⟨none, Wire.field?_of_get?_none (by simpa [Step.effect] using h)⟩
  unfold planModel at hafter
  split at hafter
  · split at hafter
    · exact hkeep hafter
    · exact htext hafter
  · split at hafter
    · exact hkeep hafter
    · exact htext hafter

/-- **The CPU of a stored object after it was planned.** -/
theorem exists_settled {current : Option Cpu} {desired : Cpu} (h : ofWire w = .ok current)
    (hafter : w'.Follows .cpu (plan version current desired) w) {s' : Option String}
    (hs' : w'.text? modelKey = .ok s') :
    ∃ after affinity, ofWire w' = .ok after ∧
      after.getD { } = settled (current.getD { }) desired affinity s' ∧
      planAffinity affinity desired.affinity = [] := by
  obtain ⟨hw, -⟩ := ofWire_eq_ok_iff.1 h
  obtain ⟨hcores, hsockets, hnuma, hlimit, hunits, hvirtualCores, haffinity, -⟩ :=
    effect_plan version current desired
  have hsome {α : Type} [Word α] (n : α) : (some (Value.ofWord n)).isSome := rfl
  have hcores' := Wire.word?_settled (by decide) hw.cores (hafter.get?_eq rfl hcores)
  have hsockets' := Wire.word?_settled (by decide) hw.sockets (hafter.get?_eq rfl hsockets)
  rw [Draft.settled_eq_or hsome] at hcores' hsockets'
  have hnuma' := Wire.flag?_settled hw.numa (hafter.get?_eq rfl hnuma)
  have hlimit' := Wire.nonzero?_settled (by decide) hw.limit (hafter.get?_eq rfl hlimit)
  have hunits' := Wire.nonzero?_settled (by decide) hw.units (hafter.get?_eq rfl hunits)
  have hvirtualCores' :=
    Wire.nonzero?_settled (by decide) hw.virtualCores (hafter.get?_eq rfl hvirtualCores)
  obtain ⟨affinity, haffinity', hplan⟩ :=
    exists_planAffinity hw.affinity (hafter.get?_eq rfl haffinity)
  have hholds : Holds w' (settled (current.getD { }) desired affinity s') :=
    ⟨haffinity', hcores', hlimit', hnuma', hsockets', ⟨s', hs', rfl, rfl⟩, hunits', hvirtualCores'⟩
  obtain ⟨after, hgetD, hne⟩ :=
    exists_getD_eq { } (settled (current.getD { }) desired affinity s')
  exact ⟨after, affinity, ofWire_eq_ok_iff.2 ⟨hgetD.symm ▸ hholds, hne⟩, hgetD, hplan⟩

/-- **The CPU is settled**, and as much in order as before. -/
theorem settles {current desired : Option Cpu} (h : ofWire w = .ok current)
    (hplain : w.HasPlainOptions modelKey)
    (hvalid : ∀ cpu, desired = some cpu → cpu.validate version current = .ok ())
    (hafter : w'.Follows .cpu (desired.elim [] (plan version current)) w) :
    ∃ after, ofWire w' = .ok after ∧ desired.elim [] (plan version after) = [] ∧
      ∀ cpu, desired = some cpu → cpu.validate version after = .ok () := by
  cases desired with
  | none =>
    exact ⟨current, (ofWire_congr hafter).trans h, rfl,
      fun _ hnone ↦ absurd hnone (Option.some_ne_none _).symm⟩
  | some desired =>
    have hvalid := hvalid desired rfl
    have hmodel := (effect_plan version current desired).2.2.2.2.2.2.2
    obtain ⟨s, hs, hbase⟩ := (ofWire_eq_ok_iff.1 h).1.modelText
    obtain ⟨s', hs', hplanModel⟩ := exists_planModel hs hbase hplain
      (fun _ ↦ exists_canonical_of_validate hvalid) (hafter.get?_eq rfl hmodel)
    obtain ⟨after, affinity, hok, hgetD, hplanAffinity⟩ := exists_settled h hafter hs'
    have hself {α : Type} (d b : Option α) : d.or (d.or b) = d.or b := by
      cases d <;> simp
    refine ⟨after, hok, ?_, fun cpu hcpu ↦ ?_⟩
    · rw [Option.elim_some, plan, hgetD, hplanModel _ rfl rfl]
      simp only [settled, Draft.setting_or, Draft.setting_settled, hplanAffinity, List.append_nil]
    · obtain rfl := Option.some.inj hcpu
      refine (validate_congr ?_ ?_).trans hvalid
      · simp only [hgetD, settled, hself]
      · simp only [hgetD, settled, hself]

end settled

end Cpu

end GuestConfig
