import GuestConfig.Proofs.Setting

/-!
# Settings keep to themselves

Each setting is planned under keys that belong to it, and each is decoded from keys that belong to
it.  An update therefore changes nothing about a setting that it does not ask for.

## What is here

* `Drive.place_cases` — what placing a drive comes to.
* `Configuration.touchesOnly_planOnly` — **a setting is planned under its own keys**; it takes one
  lemma for each setting that has a plan of its own.
* `Configuration.effect_plan` — what a plan does to a key is what the setting of the key asks for.
* `Configuration.Holds` — the settings of a stored object one by one, with
  `Configuration.ofWire_eq_ok_iff`.
* `Configuration.IsInOrder` — what the rules ask of the settings one by one, with
  `Configuration.validate_eq_ok_iff`.
* `Setting.ReadsAlike` — a setting is decoded alike from two stored objects;
  `Setting.readsAlike_of_reads` says that **a setting is decoded from its own keys.**
* `Configuration.only_congr` — the same for the settings of two configurations.
-/

set_option autoImplicit false

namespace GuestConfig

open Setting (owner? owner?_key owner?_of_ofKey?)

/-! ## Placements -/

theorem NetworkInterface.isLocal_placement : NetworkInterface.placement.IsLocal where
  place key existing device := by
    simp only [placement, place]
    repeat' split
    all_goals simp [Draft.touchesOnly_cons, Step.key?]
  remove key device := by simp [placement, Draft.touchesOnly_cons, Step.key?]

theorem CloudInit.isLocal_addressingPlacement : CloudInit.addressingPlacement.IsLocal where
  place key existing device := Draft.touchesOnly_rendered _ _ _ rfl
  remove key device := by simp [addressingPlacement, Draft.touchesOnly_cons, Step.key?]

/-- **A drive is placed by one step at most**, which sets the key or refuses to. -/
theorem Drive.place_cases (bus : Bus) (guest : Option GuestId) (key : String)
    (existing : Option Drive) (drive : Drive) :
    (placement bus guest).place key existing drive = [] ∨
      (∃ text reboot,
        (placement bus guest).place key existing drive = [.set key (.text text) reboot]) ∨
      (placement bus guest).place key existing drive = [.refuse (.diskVolume key)] := by
  cases existing with
  | none => exact .inr (.inl ⟨_, _, rfl⟩)
  | some current =>
    simp only [placement, replace]
    repeat' split
    · exact .inl rfl
    · exact .inr (.inl ⟨_, _, rfl⟩)
    · next update _ =>
      cases update with
      | none => exact .inl rfl
      | some update => exact .inr (.inl ⟨_, _, rfl⟩)
    · exact .inr (.inr rfl)
    · exact .inl rfl
    · exact .inr (.inl ⟨_, _, rfl⟩)
    · exact .inl rfl
    · exact .inr (.inl ⟨_, _, rfl⟩)
    · exact .inr (.inl ⟨_, _, rfl⟩)

theorem Drive.isLocal_placement (bus : Bus) (guest : Option GuestId) :
    (Drive.placement bus guest).IsLocal where
  place key existing device := by
    rcases place_cases bus guest key existing device with h | ⟨text, reboot, h⟩ | h
    all_goals simp [h, Draft.touchesOnly_cons, Step.key?]
  remove key device := by simp [placement, Draft.touchesOnly_cons, Step.key?]

/-! ## The keys that settings are planned under -/

section keys

variable {p : String → Prop}

theorem Agent.touchesOnly_plan (current : Option Agent) (desired : Agent) (h : p key) :
    (plan current desired).TouchesOnly p := by
  simp only [plan]
  repeat' split
  all_goals simp [Draft.touchesOnly_cons, Step.key?, h]

theorem Cpu.touchesOnly_planModel (version : Version) (base desired : Cpu) (h : p modelKey) :
    (planModel version base desired).TouchesOnly p := by
  have htext (model : Option String) (flags : Option CpuFlags) :
      (planModelText version base model flags).TouchesOnly p := by
    simp only [planModelText]
    repeat' split
    all_goals simp [Draft.touchesOnly_cons, Step.key?, h]
  unfold planModel
  repeat' split
  all_goals simp [Draft.touchesOnly_cons, Step.key?, htext]

theorem Cpu.touchesOnly_planAffinity (current desired : Option Affinity) (h : p affinityKey) :
    (planAffinity current desired).TouchesOnly p := by
  unfold planAffinity
  repeat' split
  all_goals simp [Draft.touchesOnly_cons, Step.key?, h]

theorem CloudInit.touchesOnly_planCustom (current desired : Option CustomSections)
    (h : p customKey) : (planCustom current desired).TouchesOnly p := by
  unfold planCustom
  split
  · exact Draft.touchesOnly_nil
  · exact Draft.touchesOnly_rendered _ _ _ h

theorem Tags.touchesOnly_plan (current desired : Option Tags) (h : p key) :
    (plan current desired).TouchesOnly p := by
  unfold plan
  repeat' split
  all_goals simp [Draft.touchesOnly_cons, Step.key?, h]

theorem Tpm.touchesOnly_plan (current : Option Tpm) (desired : Tpm) (h : p key) :
    (plan current desired).TouchesOnly p := by
  unfold plan
  repeat' split
  all_goals simp [Draft.touchesOnly_cons, Step.key?, h]

/-- A family is planned under keys that belong to its setting. -/
theorem Placement.touchesOnly_plan_of_owner {α : Type} {kind : SlotKind} {placement : Placement α}
    (hp : placement.IsLocal) {stem : String} {s : Setting}
    (hstem : stem.toList.all (!·.isDigit) = true) (hname : Setting.ofKeyName? stem = some s)
    (current desired : Option (SlotMap kind α)) :
    (placement.plan stem current desired).TouchesOnly (owner? · = some s) :=
  (touchesOnly_plan hp current desired).mono fun _ ⟨slot, hkey⟩ ↦
    hkey ▸ owner?_key slot hstem hname

end keys

theorem Memory.touchesOnly_plan (current : Option Memory) (desired : Memory) :
    (plan current desired).TouchesOnly (owner? · = some .memory) := by
  refine Draft.touchesOnly_append.2 ⟨Draft.touchesOnly_append.2 ⟨?_, ?_⟩, ?_⟩
  · exact Draft.touchesOnly_setting _ _ _ _ _ rfl
  · exact Draft.touchesOnly_setting _ _ _ _ _ rfl
  · split
    · exact Draft.touchesOnly_setting _ _ _ _ _ rfl
    · split
      · exact Draft.touchesOnly_cons.2
          ⟨fun key hkey ↦ Option.some.inj hkey ▸ rfl, Draft.touchesOnly_nil⟩
      · exact Draft.touchesOnly_nil

theorem Cpu.touchesOnly_plan (version : Version) (current : Option Cpu) (desired : Cpu) :
    (plan version current desired).TouchesOnly (owner? · = some .cpu) := by
  simp only [plan, Draft.touchesOnly_append]
  refine ⟨⟨⟨⟨⟨⟨⟨?_, ?_⟩, ?_⟩, ?_⟩, ?_⟩, ?_⟩, touchesOnly_planAffinity _ _ rfl⟩,
    touchesOnly_planModel _ _ _ rfl⟩ <;>
  exact Draft.touchesOnly_setting _ _ _ _ _ rfl

theorem CloudInit.touchesOnly_plan (current : Option CloudInit) (desired : CloudInit) :
    (plan current desired).TouchesOnly (owner? · = some .cloudInit) := by
  simp only [plan, planDns, Draft.touchesOnly_append]
  refine ⟨⟨⟨⟨⟨⟨touchesOnly_planCustom _ _ rfl, ?_, ?_⟩,
    Placement.touchesOnly_plan_of_owner isLocal_addressingPlacement rfl rfl _ _⟩, ?_⟩, ?_⟩, ?_⟩,
    ?_⟩ <;>
  exact Draft.touchesOnly_setting _ _ _ _ _ rfl

theorem Disks.planIde_none (guest : Option GuestId)
    (current desired : Option (SlotMap .ide Drive)) :
    planIde guest current desired none =
      (Drive.placement .ide guest).plan Bus.ide.stem current desired := by
  cases desired <;> rfl

theorem Disks.touchesOnly_plan (guest : Option GuestId) (current desired : Option Disks)
    (iso : Option IsoImage) :
    (plan guest current desired iso).TouchesOnly (owner? · = some .disks) := by
  have hmedia : owner? mediaKey = some .disks := rfl
  refine Draft.touchesOnly_append.2 ⟨?_, Draft.touchesOnly_flatMap fun bus _ ↦ ?_⟩
  · unfold planIde
    split
    · exact Placement.touchesOnly_plan_of_owner (Drive.isLocal_placement _ _) rfl rfl _ _
    · exact Placement.touchesOnly_plan_of_owner (Drive.isLocal_placement _ _) rfl rfl _ _
    · exact ((Drive.isLocal_placement _ _).place _ _ _).mono fun key hkey ↦ hkey ▸ hmedia
    · exact Draft.touchesOnly_nil
  · cases bus <;>
    exact Placement.touchesOnly_plan_of_owner (Drive.isLocal_placement _ _) rfl rfl _ _

namespace Configuration

theorem touchesOnly_planPool (guest : Option GuestId) (pool : Option PoolName) :
    (planPool guest pool).TouchesOnly (owner? · = some .pool) := by
  unfold planPool
  repeat' split
  all_goals simp [Draft.touchesOnly_cons, Step.key?, show owner? poolKey = some .pool from rfl]

private theorem touchesOnly_elim {α : Type} {p : String → Prop} (setting : Option α)
    {plan : α → Draft} (h : ∀ a, (plan a).TouchesOnly p) :
    Draft.TouchesOnly p (setting.elim [] plan) := by
  cases setting with
  | none => exact Draft.touchesOnly_nil
  | some a => exact h a

/-- **A setting is planned under its own keys.** -/
theorem touchesOnly_planOnly (version : Version) (guest : Option GuestId)
    (base desired : Configuration) (s : Setting) :
    (planOnly version guest base desired s).TouchesOnly (owner? · = some s) := by
  rw [planOnly_eq]
  cases s
  case agent => exact touchesOnly_elim _ fun _ ↦ Agent.touchesOnly_plan _ _ rfl
  case cloudInit => exact touchesOnly_elim _ fun _ ↦ CloudInit.touchesOnly_plan _ _
  case cpu => exact touchesOnly_elim _ fun _ ↦ Cpu.touchesOnly_plan _ _ _
  case description => exact Draft.touchesOnly_setting _ _ _ _ _ rfl
  case disks => exact Disks.touchesOnly_plan _ _ _ _
  case memory => exact touchesOnly_elim _ fun _ ↦ Memory.touchesOnly_plan _ _
  case name => exact Draft.touchesOnly_setting _ _ _ _ _ rfl
  case networks =>
    exact Placement.touchesOnly_plan_of_owner NetworkInterface.isLocal_placement rfl rfl _ _
  case onBoot => exact Draft.touchesOnly_setting _ _ _ _ _ rfl
  case pciDevices =>
    exact Placement.touchesOnly_plan_of_owner (Placement.isLocal_byText _ _ _) rfl rfl _ _
  case pool => exact touchesOnly_planPool _ _
  case isProtected => exact Draft.touchesOnly_setting _ _ _ _ _ rfl
  case serials =>
    exact Placement.touchesOnly_plan_of_owner (Placement.isLocal_byText _ _ _) rfl rfl _ _
  case tags => exact Tags.touchesOnly_plan _ _ rfl
  case tpm => exact touchesOnly_elim _ fun _ ↦ Tpm.touchesOnly_plan _ _ rfl
  case usbs =>
    exact Placement.touchesOnly_plan_of_owner (Placement.isLocal_byText _ _ _) rfl rfl _ _

/-! ## Plans key by key -/

/-- Of the parts of a plan only the one that a key belongs to is about the key. -/
private theorem effect_flatMap_settings {f : Setting → Draft}
    (hf : ∀ s, (f s).TouchesOnly (owner? · = some s)) {settings : List Setting}
    (hnodup : settings.Nodup) (key : String) :
    Draft.effect key (settings.flatMap f) =
      match owner? key with
      | some s => if s ∈ settings then (f s).effect key else .keep
      | none => .keep := by
  induction settings with
  | nil => cases owner? key <;> rfl
  | cons t rest ih =>
    obtain ⟨ht, hrest⟩ := List.nodup_cons.1 hnodup
    rw [List.flatMap_cons, Draft.effect_append, ih hrest]
    by_cases h : owner? key = some t
    · simp [h, ht]
    · rw [Draft.effect_eq_keep (hf t) h, Effect.keep_andThen]
      cases hs : owner? key with
      | none => rfl
      | some s =>
        have hst : s ≠ t := fun e ↦ h (hs.trans (congrArg some e))
        simp [hst]

/-- **What a plan does to a key is what the setting of the key asks for.** -/
theorem effect_plan (version : Version) (guest : Option GuestId) (base desired : Configuration)
    (key : String) :
    (desired.plan version guest (some base)).effect key =
      match owner? key with
      | some s => (planOnly version guest base desired s).effect key
      | none => .keep := by
  rw [plan_eq_flatMap, effect_flatMap_settings (touchesOnly_planOnly version guest base desired)
    (by decide : Setting.all.Nodup)]
  cases owner? key with
  | none => rfl
  | some s => exact if_pos s.mem_all

/-! ## Stored objects setting by setting -/

/-- The settings of a stored object, one by one. -/
structure Holds (w : Wire) (c : Configuration) : Prop where
  agent : Agent.ofWire w = .ok c.agent
  cloudInit : CloudInit.ofWire w = .ok c.cloudInit
  cpu : Cpu.ofWire w = .ok c.cpu
  description : w.text? descriptionKey = .ok c.description
  disks : Disks.ofWire w = .ok c.disks
  iso : c.iso = none
  memory : Memory.ofWire w = .ok c.memory
  name : w.decoded? nameKey Checked.decode = .ok c.name
  networks : NetworkInterface.ofWire w = .ok c.networks
  onBoot : w.flag? onBootKey = .ok c.onBoot
  pciDevices : PciDevice.ofWire w = .ok c.pciDevices
  pool : c.pool = none
  isProtected : w.flag? protectionKey = .ok c.isProtected
  serials : SerialPort.ofWire w = .ok c.serials
  tags : Tags.ofWire w = .ok c.tags
  tpm : Tpm.ofWire w = .ok c.tpm
  usbs : UsbDevice.ofWire w = .ok c.usbs

/-- **A stored object holds a configuration exactly if it holds each of its settings.** -/
theorem ofWire_eq_ok_iff {w : Wire} {c : Configuration} : ofWire w = .ok c ↔ Holds w c := by
  simp only [ofWire, bind_eq_ok_iff, pure_eq_ok_iff]
  constructor
  · rintro ⟨name, hname, agent, hagent, cloudInit, hcloudInit, cpu, hcpu, description,
      hdescription, disks, hdisks, memory, hmemory, networks, hnetworks, onBoot, honBoot,
      pciDevices, hpciDevices, isProtected, hisProtected, serials, hserials, tags, htags, tpm,
      htpm, usbs, husbs, rfl⟩
    exact ⟨hagent, hcloudInit, hcpu, hdescription, hdisks, rfl, hmemory, hname, hnetworks, honBoot,
      hpciDevices, rfl, hisProtected, hserials, htags, htpm, husbs⟩
  · intro h
    refine ⟨_, h.name, _, h.agent, _, h.cloudInit, _, h.cpu, _, h.description, _, h.disks, _,
      h.memory, _, h.networks, _, h.onBoot, _, h.pciDevices, _, h.isProtected, _, h.serials, _,
      h.tags, _, h.tpm, _, h.usbs, ?_⟩
    obtain ⟨iso, pool⟩ := And.intro h.iso h.pool
    cases c
    simp_all

/-! ## Rules setting by setting -/

/-- What the rules ask of a configuration that is laid over another one, setting by setting. -/
structure IsInOrder (version : Version) (current : Option Configuration)
    (desired : Configuration) : Prop where
  cpu (cpu : Cpu) : desired.cpu = some cpu →
    cpu.validate version (current.bind Configuration.cpu) = .ok ()
  memory (memory : Memory) : desired.memory = some memory →
    memory.validate (current.bind Configuration.memory) = .ok ()
  iso (image : IsoImage) : desired.iso = some image → image.validate Disks.mediaKey = .ok ()
  disks (disks : Disks) : desired.disks = some disks → disks.validate = .ok ()
  /-- The image and a drive do not both take the slot for media. -/
  media (disks : Disks) : desired.disks = some disks →
    (desired.iso.isSome && disks.usesMediaSlot) = false
  networks (interfaces : SlotMap .network NetworkInterface) : desired.networks = some interfaces →
    ∀ slot interface, interfaces.get? slot = some interface →
      interface.validate slot ((current.bind Configuration.networks).bind (·.get? slot)) = .ok ()
  cloudInit (settings : CloudInit) : desired.cloudInit = some settings →
    settings.validate version = .ok ()
  /-- Addresses are for interfaces. -/
  addressing (settings : CloudInit) : desired.cloudInit = some settings →
    ∀ addressing, settings.addressing = some addressing → ∀ slot ∈ addressing.keys,
      hasInterface current desired slot = true
  tpm (tpm : Tpm) : desired.tpm = some tpm →
    tpm.validate (current.bind Configuration.tpm) = .ok ()

/-- **A configuration meets the rules exactly if each of its settings does.** -/
theorem validate_eq_ok_iff {version : Version} {current : Option Configuration}
    {desired : Configuration} :
    desired.validate version current = .ok () ↔ IsInOrder version current desired := by
  simp only [validate, validateDrives, validateNetworks, validateCloudInit, bind_unit_eq_ok_iff,
    requireOf_eq_ok_iff, requireEach_eq_ok_iff, require_eq_ok_iff, Bool.not_eq_true']
  constructor
  · rintro ⟨hcpu, hmemory, ⟨hiso, hdisks⟩, hnetworks, hcloudInit, htpm⟩
    exact {
      cpu := hcpu
      memory := hmemory
      iso := hiso
      disks := fun disks hsome ↦ (hdisks disks hsome).1
      media := fun disks hsome ↦ (hdisks disks hsome).2
      networks := fun interfaces hsome slot interface hget ↦
        hnetworks interfaces hsome (slot, interface) (interfaces.mem_toList_iff.2 hget)
      cloudInit := fun settings hsome ↦ (hcloudInit settings hsome).1
      addressing := fun settings hsome ↦ (hcloudInit settings hsome).2
      tpm := htpm }
  · intro h
    exact ⟨h.cpu, h.memory, ⟨h.iso, fun disks hsome ↦ ⟨h.disks disks hsome, h.media disks hsome⟩⟩,
      fun interfaces hsome e he ↦
        h.networks interfaces hsome e.1 e.2 (interfaces.mem_toList_iff.1 he),
      fun settings hsome ↦ ⟨h.cloudInit settings hsome, h.addressing settings hsome⟩, h.tpm⟩

end Configuration

/-! ## Settings are decoded from their own keys -/

section decoding

variable {w w' : Wire}

theorem Agent.ofWire_congr (h : w'.get? key = w.get? key) : ofWire w' = ofWire w :=
  Wire.decoded?_congr h

theorem Tags.ofWire_congr (h : w'.get? key = w.get? key) : ofWire w' = ofWire w :=
  congrArg (Except.map _) (Wire.decoded?_congr h)

theorem Tpm.ofWire_congr (h : w'.get? key = w.get? key) : ofWire w' = ofWire w :=
  Wire.decoded?_congr h

theorem Memory.capacityOfWire_congr (h : w'.get? capacityKey = w.get? capacityKey) :
    capacityOfWire w' = capacityOfWire w := by
  rw [capacityOfWire, capacityOfWire, h, Wire.word?_congr h]

namespace Setting

/-- A setting is decoded alike from two stored objects, or it fails alike. -/
def ReadsAlike (w' w : Wire) : Setting → Prop
  | agent => Agent.ofWire w' = Agent.ofWire w
  | cloudInit => CloudInit.ofWire w' = CloudInit.ofWire w
  | cpu => Cpu.ofWire w' = Cpu.ofWire w
  | description =>
    w'.text? Configuration.descriptionKey = w.text? Configuration.descriptionKey
  | disks => Disks.ofWire w' = Disks.ofWire w
  | memory => Memory.ofWire w' = Memory.ofWire w
  | name =>
    (w'.decoded? Configuration.nameKey Checked.decode : Except WireError (Option GuestName)) =
      w.decoded? Configuration.nameKey Checked.decode
  | networks => NetworkInterface.ofWire w' = NetworkInterface.ofWire w
  | onBoot => w'.flag? Configuration.onBootKey = w.flag? Configuration.onBootKey
  | pciDevices => PciDevice.ofWire w' = PciDevice.ofWire w
  | pool => True
  | isProtected => w'.flag? Configuration.protectionKey = w.flag? Configuration.protectionKey
  | serials => SerialPort.ofWire w' = SerialPort.ofWire w
  | tags => Tags.ofWire w' = Tags.ofWire w
  | tpm => Tpm.ofWire w' = Tpm.ofWire w
  | usbs => UsbDevice.ofWire w' = UsbDevice.ofWire w

/-- **A setting is decoded from its own keys.** -/
theorem readsAlike_of_reads {s : Setting} (h : ∀ key, s.Reads key → w'.get? key = w.get? key) :
    s.ReadsAlike w' w := by
  have hsingle {key : String} (hkey : key ∈ s.singleKeys) : w'.get? key = w.get? key :=
    h key (.inl hkey)
  -- one reading after another, by the kind of the reader
  have htext {key : String} (hkey : key ∈ s.singleKeys) : w'.text? key = w.text? key :=
    Wire.text?_congr (hsingle hkey)
  have hflag {key : String} (hkey : key ∈ s.singleKeys) : w'.flag? key = w.flag? key :=
    Wire.flag?_congr (hsingle hkey)
  have hword {α : Type} [Word α] {key : String} (hkey : key ∈ s.singleKeys) :
      (w'.word? key : Except WireError (Option α)) = w.word? key :=
    Wire.word?_congr (hsingle hkey)
  have hdecoded {α : Type} {decode : String → Except WireError α} {key : String}
      (hkey : key ∈ s.singleKeys) : w'.decoded? key decode = w.decoded? key decode :=
    Wire.decoded?_congr (hsingle hkey)
  have hslots {α : Type} {kind : SlotKind} {stem : String} {decode : String → Except WireError α}
      (hfamily : (kind, stem) ∈ s.families) :
      w'.slots kind stem decode = w.slots kind stem decode :=
    Wire.slots_congr fun key hkey ↦ h key (.inr ⟨(kind, stem), hfamily, hkey⟩)
  cases s with
  | agent => exact hdecoded (by decide)
  | cloudInit =>
    simp (disch := decide) only [ReadsAlike, CloudInit.ofWire, CloudInit.dnsOfWire, htext, hflag,
      hdecoded, hslots]
  | cpu => simp (disch := decide) only [ReadsAlike, Cpu.ofWire, htext, hflag, hword, hdecoded]
  | description => exact htext (by decide)
  | disks => simp (disch := decide) only [ReadsAlike, Disks.ofWire, hslots]
  | memory =>
    have hcapacity := Memory.capacityOfWire_congr (hsingle (by decide))
    simp (disch := decide) only [ReadsAlike, Memory.ofWire, hcapacity, hword]
  | name => exact hdecoded (by decide)
  | networks => exact hslots (by decide)
  | onBoot => exact hflag (by decide)
  | pciDevices => exact hslots (by decide)
  | pool => trivial
  | isProtected => exact hflag (by decide)
  | serials => exact hslots (by decide)
  | tags => exact congrArg (Except.map _) (hdecoded (by decide))
  | tpm => exact hdecoded (by decide)
  | usbs => exact hslots (by decide)

/-- A setting is decoded from keys that belong to it. -/
theorem readsAlike_of_owner {s : Setting}
    (h : ∀ key, owner? key = some s → w'.get? key = w.get? key) : s.ReadsAlike w' w :=
  readsAlike_of_reads fun key hkey ↦ h key (owner?_of_reads hkey)

end Setting

theorem Memory.ofWire_congr (h : ∀ key, owner? key = some .memory → w'.get? key = w.get? key) :
    ofWire w' = ofWire w :=
  Setting.readsAlike_of_owner (s := .memory) h

theorem Cpu.ofWire_congr (h : ∀ key, owner? key = some .cpu → w'.get? key = w.get? key) :
    ofWire w' = ofWire w :=
  Setting.readsAlike_of_owner (s := .cpu) h

theorem CloudInit.ofWire_congr
    (h : ∀ key, owner? key = some .cloudInit → w'.get? key = w.get? key) :
    ofWire w' = ofWire w :=
  Setting.readsAlike_of_owner (s := .cloudInit) h

/-- A configuration is decoded setting by setting. -/
theorem Configuration.ofWire_congr (h : ∀ s : Setting, s.ReadsAlike w' w) :
    ofWire w' = ofWire w := by
  rw [ofWire, ofWire, h .name, h .agent, h .cloudInit, h .cpu, h .description, h .disks, h .memory,
    h .networks, h .onBoot, h .pciDevices, h .isProtected, h .serials, h .tags, h .tpm, h .usbs]

end decoding

private theorem eq_of_readings {α : Type} {x x' : Except WireError α} {a a' : α} (h : x' = x)
    (hx : x = .ok a) (hx' : x' = .ok a') : a' = a :=
  Except.ok.inj (hx'.symm.trans (h.trans hx))

/-- Settings that are decoded from their own keys are the same if these keys are. -/
theorem Configuration.only_congr {w w' : Wire} {c c' : Configuration} (hc : Holds w c)
    (hc' : Holds w' c') {s : Setting}
    (h : ∀ key, owner? key = some s → w'.get? key = w.get? key) : c'.only s = c.only s := by
  have hs : s.ReadsAlike w' w := Setting.readsAlike_of_owner h
  cases s with
  | agent => rw [only, only, eq_of_readings hs hc.agent hc'.agent]
  | cloudInit => rw [only, only, eq_of_readings hs hc.cloudInit hc'.cloudInit]
  | cpu => rw [only, only, eq_of_readings hs hc.cpu hc'.cpu]
  | description => rw [only, only, eq_of_readings hs hc.description hc'.description]
  | disks => rw [only, only, eq_of_readings hs hc.disks hc'.disks, hc.iso, hc'.iso]
  | memory => rw [only, only, eq_of_readings hs hc.memory hc'.memory]
  | name => rw [only, only, eq_of_readings hs hc.name hc'.name]
  | networks => rw [only, only, eq_of_readings hs hc.networks hc'.networks]
  | onBoot => rw [only, only, eq_of_readings hs hc.onBoot hc'.onBoot]
  | pciDevices => rw [only, only, eq_of_readings hs hc.pciDevices hc'.pciDevices]
  | pool => rw [only, only, hc.pool, hc'.pool]
  | isProtected => rw [only, only, eq_of_readings hs hc.isProtected hc'.isProtected]
  | serials => rw [only, only, eq_of_readings hs hc.serials hc'.serials]
  | tags => rw [only, only, eq_of_readings hs hc.tags hc'.tags]
  | tpm => rw [only, only, eq_of_readings hs hc.tpm hc'.tpm]
  | usbs => rw [only, only, eq_of_readings hs hc.usbs hc'.usbs]

end GuestConfig
