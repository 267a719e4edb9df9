import GuestConfig.Proofs.Convergence
import GuestConfig.Proofs.Cpu.FlagList
import GuestConfig.Proofs.Cpu.Model

/-!
# The model and the features of a CPU read back as what was asked for

The model and its features are stored in one text, and a plan compares texts.  What it amounts to is
that every feature is switched as was asked for, or as it was, and that the model is the one asked
for, or the one that was there, or the one that the version chooses where features have none.

A text says two things: which features are on or off, and the model in effect, under its proper name
and with the version's own choice beside features without one.  Texts are the same exactly if these
are, so that the text is left alone exactly if neither changes.

## What is here

* `Wire.HasFullOptions` — options with a value that could stand first as well.
* `Cpu.effectiveModel`, `Cpu.IsAlike` — the model in effect, and what two CPUs have in common whose
  texts say the same.
* `Cpu.text?_eq_iff` — **texts are the same exactly if what they say is.**
* `Cpu.overlaid`, `Cpu.exists_isAlike_overlaid` — the text that is there after it was planned.
* `Cpu.Overlays` — what was asked for was laid over what there was.
* `planUpdate_overlays_cpu` — **the model and the features of a guest after an update.**
-/

set_option autoImplicit false

namespace GuestConfig

/-- Every option under a key has a value, in which there is no second `=`. -/
def Wire.HasFullOptions (w : Wire) (key : String) : Prop :=
  ∀ s, w.text? key = .ok (some s) → ∀ e ∈ (OptionList.parse s).entries,
    e.value ≠ "" ∧ '=' ∉ e.value.toList

theorem Wire.hasFullOptions_iff {w : Wire} {key : String} :
    w.HasFullOptions key ↔ ∀ s ∈ (w.text? key).toOption.join,
      ∀ e ∈ (OptionList.parse s).entries, e.value ≠ "" ∧ '=' ∉ e.value.toList := by
  simp only [HasFullOptions, Option.mem_def, Option.join_eq_some_iff, toOption_eq_some_iff]

instance (w : Wire) (key : String) : Decidable (w.HasFullOptions key) :=
  decidable_of_iff _ Wire.hasFullOptions_iff.symm

namespace Cpu

variable {version : Version}

/-! ## Names of models -/

/-- A name that reads back from the front of a list of options. -/
structure IsModelName (name : String) : Prop where
  leading : IsLeadingModel name
  ne_empty : name ≠ ""

theorem isModelName_of_canonical {name proper : String}
    (h : CpuModel.canonical name version = .ok proper) : IsModelName proper :=
  ⟨isLeadingModel_of_isWord (CpuModel.isWord_of_canonical h).1,
    (CpuModel.isWord_of_canonical h).2⟩

theorem isModelName_of_storedModel {w : Wire} {s : Option String} {name : String}
    (hs : w.text? modelKey = .ok s) (hfull : w.HasFullOptions modelKey)
    (h : storedModel s = some name) : IsModelName name := by
  refine ⟨isLeadingModel_of_storedModel hs (fun s hs e he ↦ (hfull s hs e he).2) h, ?_⟩
  obtain ⟨text, rfl, e, he, rfl⟩ := exists_of_storedModel h
  exact (hfull text hs e he).1

theorem isModelName_properModel {name : String} (h : IsModelName name) :
    IsModelName (properModel version name) := by
  unfold properModel
  split
  · next hproper => exact isModelName_of_canonical hproper
  · exact h

/-! ## What a text says -/

/-- The features that differ from the model. -/
def features (cpu : Cpu) : CpuFlags :=
  cpu.flags.getD .empty

/-- The model in effect under its proper name; if none is there, it is the version's own choice
beside a feature that is on or off. -/
def effectiveModel (version : Version) (cpu : Cpu) : Option String :=
  (cpu.model.map (properModel version)).or
    (if cpu.features.isSwitched then some (CpuModel.standard version) else none)

/-- Two CPUs with the same model in effect, and the same features on and off. -/
structure IsAlike (version : Version) (a b : Cpu) : Prop where
  model : a.effectiveModel version = b.effectiveModel version
  features (flag : CpuFlag) : a.features.switched? flag = b.features.switched? flag

/-- The text for the model and the features. -/
def text? (version : Version) (cpu : Cpu) : Option String :=
  modelText? version (cpu.model.map (properModel version)) cpu.features

/-- A CPU whose model has a name that reads back. -/
def IsNamed (version : Version) (cpu : Cpu) : Prop :=
  ∀ name, cpu.model.map (properModel version) = some name → IsModelName name

section text

variable {a b c : Cpu} {s : Option String}

theorem IsAlike.symm (h : IsAlike version a b) : IsAlike version b a :=
  ⟨h.model.symm, fun flag ↦ (h.features flag).symm⟩

theorem IsAlike.trans (hab : IsAlike version a b) (hbc : IsAlike version b c) :
    IsAlike version a c :=
  ⟨hab.model.trans hbc.model, fun flag ↦ (hab.features flag).trans (hbc.features flag)⟩

theorem isAlike_of_eq (hmodel : a.model = b.model) (hflags : a.flags = b.flags) :
    IsAlike version a b := by
  have hfeatures : a.features = b.features := by rw [features, features, hflags]
  exact ⟨by rw [effectiveModel, effectiveModel, hmodel, hfeatures], fun _ ↦ by rw [hfeatures]⟩

/-- The text is that of the model in effect. -/
theorem text?_eq_map (cpu : Cpu) :
    text? version cpu = (cpu.effectiveModel version).map fun name ↦
      (OptionList.mk (OptionList.positional name ++
        OptionList.optional "flags" cpu.features.text?)).text := by
  rw [text?, modelText?, effectiveModel, ← CpuFlags.isSome_text?]
  cases cpu.model <;> cases cpu.features.text? <;> rfl

/-- The model in effect reads back. -/
theorem storedModel_eq_effectiveModel (ha : IsNamed version a) (h : text? version a = s) :
    storedModel s = a.effectiveModel version := by
  cases s with
  | none => exact (Option.map_eq_none_iff.1 ((text?_eq_map a).symm.trans h)).symm
  | some text =>
    obtain ⟨name, hname, -⟩ := Option.map_eq_some_iff.1 ((text?_eq_map a).symm.trans h)
    have hread := storedModel_modelText? h fun name hname ↦ (ha name hname).leading
    rw [effectiveModel] at hname ⊢
    cases hmodel : a.model.map (properModel version) with
    | some proper =>
      rw [hread, hmodel, Option.getD_some, if_neg (ha proper hmodel).ne_empty, Option.some_or]
    | none =>
      have hstandard := isModelName_of_canonical (CpuModel.canonical_standard version)
      rw [hmodel, Option.none_or] at hname
      rw [hread, hmodel, Option.getD_none, if_neg hstandard.ne_empty, Option.none_or]
      split at hname
      · next hswitched => rw [if_pos hswitched]
      · cases hname

/-- The features read back, as far as they are on or off. -/
theorem switched?_storedFlags (ha : IsNamed version a) (h : text? version a = s)
    (flag : CpuFlag) :
    ((storedFlags s).getD .empty).switched? flag = a.features.switched? flag := by
  rw [← CpuFlags.get?_shown_eq_switched?, ← CpuFlags.get?_shown_eq_switched?]
  cases s with
  | none =>
    rw [CpuFlags.shown_eq_empty (modelText?_eq_none_iff.1 h).2]
    rfl
  | some text =>
    rw [storedFlags_modelText? h fun name hname ↦ (ha name hname).leading, CpuFlags.shown_shown]

/-- **Texts are the same exactly if what they say is.** -/
theorem text?_eq_iff (ha : IsNamed version a) (hb : IsNamed version b) :
    text? version a = text? version b ↔ IsAlike version a b := by
  constructor
  · intro h
    exact ⟨(storedModel_eq_effectiveModel ha h).symm.trans (storedModel_eq_effectiveModel hb rfl),
      fun flag ↦ (switched?_storedFlags ha h flag).symm.trans (switched?_storedFlags hb rfl flag)⟩
  · intro h
    have htext : a.features.text? = b.features.text? := by
      rw [← CpuFlags.text?_shown a.features, CpuFlags.shown_eq_iff.2 h.features,
        CpuFlags.text?_shown]
    rw [text?_eq_map, text?_eq_map, h.model, htext]

theorem map_effectiveModel (cpu : Cpu) :
    (cpu.effectiveModel version).map (properModel version) = cpu.effectiveModel version := by
  have hstandard : properModel version (CpuModel.standard version) = CpuModel.standard version :=
    properModel_eq_self (CpuModel.canonical_standard version)
  rw [effectiveModel]
  cases cpu.model with
  | some name => simp
  | none =>
    cases cpu.features.isSwitched
    · rfl
    · simp [hstandard]

/-- What is read of a text is what it says. -/
theorem isAlike_of_stored (ha : IsNamed version a) (h : text? version a = s)
    (hmodel : b.model = storedModel s) (hflags : b.flags = storedFlags s) :
    IsAlike version b a := by
  have hfeatures (flag : CpuFlag) : b.features.switched? flag = a.features.switched? flag := by
    rw [features, hflags, switched?_storedFlags ha h]
  refine ⟨?_, hfeatures⟩
  rw [effectiveModel, hmodel, storedModel_eq_effectiveModel ha h, map_effectiveModel,
    CpuFlags.isSwitched_congr hfeatures, effectiveModel]
  cases a.model <;> simp

end text

/-! ## The text after it was planned -/

/-- The model and the features that are asked for, on top of those in effect. -/
def overlaid (desired base : Cpu) : Cpu where
  model := desired.model.or base.model
  flags := some (desired.features.laidOver base.features)

section plan

variable {w w' : Wire} {base desired : Cpu} {s : Option String}

theorem isNamed_of_stored (hs : w.text? modelKey = .ok s) (hfull : w.HasFullOptions modelKey)
    (hbase : base.model = storedModel s) : IsNamed version base := by
  intro name hname
  obtain ⟨stored, hstored, rfl⟩ := Option.map_eq_some_iff.1 hname
  exact isModelName_properModel (isModelName_of_storedModel hs hfull (hbase ▸ hstored))

variable (hmodel : ∀ name, desired.model = some name →
  ∃ proper, CpuModel.canonical name version = .ok proper)

include hmodel

/-- The plan compares texts, if the model that is asked for is known. -/
theorem planModel_eq :
    planModel version base desired =
      planModelText version base (desired.model.map (properModel version)) desired.flags := by
  unfold planModel
  cases hdesired : desired.model with
  | none =>
    dsimp only
    split
    · next hflags =>
      -- nothing is asked for, so that the text stays as it is
      rw [Option.isNone_iff_eq_none.1 hflags]
      exact (if_pos rfl).symm
    · rfl
  | some name =>
    obtain ⟨proper, hproper⟩ := hmodel name hdesired
    simp only [hproper, Option.map_some, properModel]

/-- What is planned for the text: nothing if it says what is asked for already. -/
theorem effect_planModel :
    (planModel version base desired).effect modelKey =
      if text? version base = text? version (desired.overlaid base) then .keep
      else (text? version (desired.overlaid base)).elim .delete fun s ↦ .set (.text s) := by
  have hor : (desired.model.map (properModel version)).or (base.model.map (properModel version)) =
      (desired.overlaid base).model.map (properModel version) := by
    unfold overlaid
    cases desired.model <;> rfl
  have hbefore : modelText? version (base.model.map (properModel version))
      (base.flags.getD .empty) = text? version base := rfl
  have hafter : modelText? version ((desired.overlaid base).model.map (properModel version))
      ((desired.flags.getD .empty).laidOver (base.flags.getD .empty)) =
        text? version (desired.overlaid base) := rfl
  rw [planModel_eq hmodel, planModelText, hor]
  simp only [hbefore, hafter]
  split
  · rfl
  · cases text? version (desired.overlaid base) <;> simp [Step.effect]

theorem isNamed_overlaid (hbase : IsNamed version base) :
    IsNamed version (desired.overlaid base) := by
  intro name hname
  obtain ⟨asked, hasked, rfl⟩ := Option.map_eq_some_iff.1 hname
  rcases Option.or_eq_some_iff.1 hasked with hdesired | ⟨-, hkept⟩
  · obtain ⟨proper, hproper⟩ := hmodel asked hdesired
    rw [properModel, hproper]
    exact isModelName_of_canonical hproper
  · exact hbase _ (by rw [hkept]; rfl)

/-- **The text that is there after it was planned** says what was asked for on top of what was in
effect. -/
theorem exists_isAlike_overlaid (hs : w.text? modelKey = .ok s)
    (hbase : base.model = storedModel s ∧ base.flags = storedFlags s)
    (hfull : w.HasFullOptions modelKey)
    (hafter : w'.get? modelKey =
      ((planModel version base desired).effect modelKey).applyTo (w.get? modelKey)) :
    ∃ s', w'.text? modelKey = .ok s' ∧ ∀ after : Cpu, after.model = storedModel s' →
      after.flags = storedFlags s' → IsAlike version after (desired.overlaid base) := by
  have hbaseNamed : IsNamed version base := isNamed_of_stored hs hfull hbase.1
  have hnamed := isNamed_overlaid hmodel hbaseNamed
  rw [effect_planModel hmodel] at hafter
  split at hafter
  · next hsame =>
    refine ⟨s, (Wire.text?_congr hafter).trans hs, fun after hafterModel hafterFlags ↦ ?_⟩
    exact (isAlike_of_eq (hafterModel.trans hbase.1.symm) (hafterFlags.trans hbase.2.symm)).trans
      ((text?_eq_iff hbaseNamed hnamed).1 hsame)
  · refine ⟨text? version (desired.overlaid base), ?_, fun after ↦ isAlike_of_stored hnamed rfl⟩
    cases htext : text? version (desired.overlaid base) with
    | none => exact Wire.field?_of_get?_none (by simpa [htext] using hafter)
    | some text => exact Wire.text?_of_get? (by simpa [htext] using hafter)

/-- The text is left alone exactly if what it says does not change. -/
theorem effect_planModel_eq_keep_iff (hbase : IsNamed version base) :
    (planModel version base desired).effect modelKey = .keep ↔
      IsAlike version base (desired.overlaid base) := by
  rw [← text?_eq_iff hbase (isNamed_overlaid hmodel hbase), effect_planModel hmodel]
  split
  · next hsame => exact iff_of_true rfl hsame
  · next hchange =>
    refine iff_of_false ?_ hchange
    cases text? version (desired.overlaid base) <;> nofun

end plan

/-! ## Overlays -/

/-- What is there after a model and features were asked for on top of others.  A feature is on or
off as was asked for, or as it was if it was not mentioned; the model is the one that was asked for,
or else the one that was there, or else the version's own choice beside a feature that is on or
off. -/
structure Overlays (version : Version) (desired base after : Cpu) : Prop where
  mentioned (flag : CpuFlag) (state : FlagState) : desired.features.get? flag = some state →
    after.features.switched? flag = if state = .unset then none else some state
  unmentioned (flag : CpuFlag) : desired.features.get? flag = none →
    after.features.switched? flag = base.features.switched? flag
  model : after.effectiveModel version =
    ((desired.model.or base.model).map (properModel version)).or
      (if after.features.isSwitched then some (CpuModel.standard version) else none)

theorem overlays_of_isAlike {desired base after : Cpu}
    (h : IsAlike version after (desired.overlaid base)) :
    desired.Overlays version base after := by
  have hget (flag : CpuFlag) : after.features.switched? flag =
      ((desired.features.get? flag).or (base.features.get? flag)).filter (· ≠ .unset) := by
    rw [h.features, CpuFlags.switched?, ← CpuFlags.get?_laidOver]
    rfl
  refine ⟨fun flag state hstate ↦ ?_, fun flag hnone ↦ ?_, ?_⟩
  · rw [hget, hstate, Option.some_or, Option.filter_some]
    cases state <;> rfl
  · rw [hget, hnone, Option.none_or, CpuFlags.switched?]
  · rw [h.model, effectiveModel, CpuFlags.isSwitched_congr h.features]
    rfl

end Cpu

/-! ## Updates -/

/-- What is planned for the text of the model is what the CPU asks for. -/
theorem Configuration.effect_plan_modelKey (version : Version) (guest : Option GuestId)
    (current : Configuration) {desired : Configuration} {cpu : Cpu}
    (hdesired : desired.cpu = some cpu) :
    (desired.plan version guest (some current)).effect Cpu.modelKey =
      (Cpu.planModel version (current.cpu.getD { }) cpu).effect Cpu.modelKey := by
  have howner : Setting.owner? Cpu.modelKey = some .cpu := rfl
  rw [effect_plan, howner]
  dsimp only
  rw [planOnly_eq]
  dsimp only
  rw [hdesired]
  exact (Cpu.effect_plan version current.cpu cpu).2.2.2.2.2.2.2

/-- **After an update the model and the features of a guest are what was asked for**, laid over what
was there, and their key is left alone exactly if neither the model in effect nor a feature
changes. -/
theorem planUpdate_overlays_cpu {version : Version} {guest : GuestId} {w : Wire}
    {current desired : Configuration} {change : Change} {cpu : Cpu}
    (hfull : w.HasFullOptions Cpu.modelKey) (hcurrent : Configuration.ofWire w = .ok current)
    (hdesired : desired.cpu = some cpu)
    (hchange : (planUpdate version guest current desired).result = .ok change) :
    ∃ after, Cpu.ofWire (change.applyTo w) = .ok after ∧
      cpu.Overlays version (current.cpu.getD { }) (after.getD { }) ∧
      (change.params.get? Cpu.modelKey = none ∧ Cpu.modelKey ∉ change.deleted ↔
        (after.getD { }).effectiveModel version = (current.cpu.getD { }).effectiveModel version ∧
          ∀ flag, (after.getD { }).features.switched? flag =
            (current.cpu.getD { }).features.switched? flag) := by
  have hw := (Configuration.ofWire_eq_ok_iff.1 hcurrent).cpu
  have hfollows := Configuration.follows_applyTo hchange w .cpu
  rw [Configuration.planOnly_eq] at hfollows
  dsimp only at hfollows
  rw [hdesired] at hfollows
  obtain ⟨hvalid, -, rfl⟩ := planUpdate_eq_ok_iff.1 hchange
  have hmodel (name : String) (hname : cpu.model = some name) :
      ∃ proper, CpuModel.canonical name version = .ok proper :=
    Cpu.exists_canonical_of_validate
      ((Configuration.validate_eq_ok_iff.1 hvalid).cpu cpu hdesired) hname
  have heffect := Configuration.effect_plan_modelKey version (some guest) current hdesired
  obtain ⟨s, hs, hbase⟩ := (Cpu.ofWire_eq_ok_iff.1 hw).1.modelText
  obtain ⟨s', hs', halike⟩ := Cpu.exists_isAlike_overlaid hmodel hs hbase hfull
    (heffect ▸ Draft.get?_applyTo_change _ w Cpu.modelKey)
  obtain ⟨after, affinity, hok, hgetD, -⟩ := Cpu.exists_settled hw hfollows hs'
  have hoverlaid : Cpu.IsAlike version (after.getD { }) (cpu.overlaid (current.cpu.getD { })) :=
    halike _ (by rw [hgetD]; rfl) (by rw [hgetD]; rfl)
  refine ⟨after, hok, Cpu.overlays_of_isAlike hoverlaid, ?_⟩
  rw [← Change.effect_eq_keep_iff, Draft.effect_change, heffect,
    Cpu.effect_planModel_eq_keep_iff hmodel (Cpu.isNamed_of_stored hs hfull hbase.1)]
  constructor
  · intro h
    have hsame := hoverlaid.trans h.symm
    exact ⟨hsame.model, hsame.features⟩
  · rintro ⟨hsame, hfeatures⟩
    exact Cpu.IsAlike.trans ⟨hsame.symm, fun flag ↦ (hfeatures flag).symm⟩ hoverlaid

/-- A guest with features but no model. -/
def featuredGuest : Wire :=
  .ofList [("cpu", .text "flags=+aes;-pcid"), ("memory", .int 512)]

/-- What is asked for to return one feature to the model and to switch another one on. -/
def refeaturedCpu : Cpu where
  flags := some (.ofList [(.ssbd, .enabled), (.aes, .unset)])

/-- The CPU is asked for and nothing else. -/
def refeaturedGuest : Configuration where
  cpu := some refeaturedCpu

/-- A feature is returned, another one is switched on, and the model is the version's own choice. -/
theorem planUpdate_overlays_refeaturedCpu :
    ∃ (current : Configuration) (change : Change) (after : Option Cpu),
      Configuration.ofWire featuredGuest = .ok current ∧
      (planUpdate ⟨8, 1, 0⟩ ⟨100, by decide, by decide⟩ current refeaturedGuest).result =
        .ok change ∧
      (change.applyTo featuredGuest).text? Cpu.modelKey =
        .ok (some "x86-64-v2-AES,flags=-pcid;+ssbd") ∧
      Cpu.ofWire (change.applyTo featuredGuest) = .ok after ∧
      refeaturedCpu.Overlays ⟨8, 1, 0⟩ (current.cpu.getD { }) (after.getD { }) := by
  have h : ((Configuration.ofWire featuredGuest).toOption.bind fun current ↦
      (planUpdate ⟨8, 1, 0⟩ ⟨100, by decide, by decide⟩ current
        refeaturedGuest).result.toOption.bind fun change ↦
          ((change.applyTo featuredGuest).text? Cpu.modelKey).toOption) =
      some (some "x86-64-v2-AES,flags=-pcid;+ssbd") := by decide +kernel
  obtain ⟨current, hcurrent, h⟩ := exists_of_toOption_bind h
  obtain ⟨change, hchange, htext⟩ := exists_of_toOption_bind h
  obtain ⟨after, hafter, hoverlays, -⟩ := planUpdate_overlays_cpu (by decide +kernel) hcurrent rfl
    hchange
  exact ⟨current, change, after, hcurrent, hchange, toOption_eq_some_iff.1 htext, hafter,
    hoverlays⟩

end GuestConfig
