import GuestConfig.Proofs.Frame

/-!
# Independent updates

Updating a guest means decoding what is stored, planning the way from there to what is asked for,
and storing the change.  Two updates that ask for different settings do not get in each other's
way: they can be made in either order or at once, and what is stored in the end is the same.

The reason is the frame property of settings.  An update stores, under the keys of every setting,
what that setting asks for, given the value that it had; and an update that does not ask for a
setting leaves both its keys and its value alone.

## What is here

* `Wire.update` — the stored object after an update, if there is a plan.
* `Configuration.combine`, `Configuration.AreDisjoint` — two configurations together, and those
  that ask for different settings.
* `Wire.get?_update` — an update, key by key.
* `Wire.get?_update_update` — two updates that ask for different settings, key by key.
* `Wire.update_comm` — **independent updates commute and compose.**
-/

set_option autoImplicit false

namespace GuestConfig

open Setting (owner?)

/-! ## Updates -/

/-- The stored object after an update; there is none if it cannot be decoded or if the update
cannot be planned. -/
def Wire.update (version : Version) (guest : GuestId) (w : Wire) (desired : Configuration) :
    Option Wire :=
  match Configuration.ofWire w with
  | .error _ => none
  | .ok current =>
    match (planUpdate version guest current desired).result with
    | .error _ => none
    | .ok change => some (change.applyTo w)

/-- An update is planned exactly if what is asked for is in order and no step is refused. -/
theorem planUpdate_eq_ok_iff {version : Version} {guest : GuestId} {current desired : Configuration}
    {change : Change} :
    (planUpdate version guest current desired).result = .ok change ↔
      desired.validate version (some current) = .ok () ∧
        (desired.plan version (some guest) (some current)).refusal? = none ∧
        (desired.plan version (some guest) (some current)).change = change := by
  unfold planUpdate
  split
  · next h => simp [h]
  · next h => rw [Plan.result_ofDraft, Draft.result_eq_ok_iff, h]; simp

theorem Wire.update_eq_some_iff {version : Version} {guest : GuestId} {w w' : Wire}
    {desired : Configuration} :
    w.update version guest desired = some w' ↔
      ∃ current change, Configuration.Holds w current ∧
        (planUpdate version guest current desired).result = .ok change ∧
        change.applyTo w = w' := by
  unfold update
  cases h : Configuration.ofWire w with
  | error e => simp [← Configuration.ofWire_eq_ok_iff, h]
  | ok current =>
    simp only [← Configuration.ofWire_eq_ok_iff, h, Except.ok.injEq]
    cases hplan : (planUpdate version guest current desired).result <;> simp [hplan]

/-! ## Configurations that ask for different settings -/

namespace Configuration

/-- Everything that one of two configurations asks for; the first one decides if both do. -/
def combine (a b : Configuration) : Configuration where
  agent := a.agent.or b.agent
  cloudInit := a.cloudInit.or b.cloudInit
  cpu := a.cpu.or b.cpu
  description := a.description.or b.description
  disks := a.disks.or b.disks
  iso := a.iso.or b.iso
  memory := a.memory.or b.memory
  name := a.name.or b.name
  networks := a.networks.or b.networks
  onBoot := a.onBoot.or b.onBoot
  pciDevices := a.pciDevices.or b.pciDevices
  pool := a.pool.or b.pool
  isProtected := a.isProtected.or b.isProtected
  serials := a.serials.or b.serials
  tags := a.tags.or b.tags
  tpm := a.tpm.or b.tpm
  usbs := a.usbs.or b.usbs

/-- Two configurations that have no setting in common. -/
def AreDisjoint (a b : Configuration) : Prop :=
  ∀ s, a.only s = { } ∨ b.only s = { }

theorem AreDisjoint.symm {a b : Configuration} (h : AreDisjoint a b) : AreDisjoint b a :=
  fun s ↦ (h s).symm

theorem only_combine_left {a b : Configuration} {s : Setting} (h : b.only s = { }) :
    (combine a b).only s = a.only s := by
  cases s <;> simp_all [only, combine]

theorem only_combine_right {a b : Configuration} {s : Setting} (h : a.only s = { }) :
    (combine a b).only s = b.only s := by
  cases s <;> simp_all [only, combine]

/-- The steps for a setting depend on its desired and its current value only. -/
theorem planOnly_congr (version : Version) (guest : Option GuestId)
    {base base' desired desired' : Configuration} {s : Setting} (hbase : base'.only s = base.only s)
    (hdesired : desired'.only s = desired.only s) :
    planOnly version guest base' desired' s = planOnly version guest base desired s := by
  rw [planOnly, planOnly, hbase, hdesired]

theorem planOnly_of_only_eq_empty (version : Version) (guest : Option GuestId)
    (base : Configuration) {desired : Configuration} {s : Setting} (h : desired.only s = { }) :
    planOnly version guest base desired s = [] := by
  rw [planOnly, h]
  simp [plan]

end Configuration

namespace Wire

variable {version : Version} {guest : GuestId} {w w₁ w₂ : Wire}
  {c c₁ desired desired₁ desired₂ : Configuration}

open GuestConfig.Configuration (planOnly planOnly_congr planOnly_of_only_eq_empty Holds)

/-! ## Updates key by key -/

/-- **An update stores under every key what the setting of the key asks for.** -/
theorem get?_update (hc : Holds w c) (h : w.update version guest desired = some w₁) (key : String) :
    w₁.get? key =
      match owner? key with
      | some s => ((planOnly version (some guest) c desired s).effect key).applyTo (w.get? key)
      | none => w.get? key := by
  obtain ⟨current, change, hcurrent, hplan, rfl⟩ := update_eq_some_iff.1 h
  obtain ⟨-, -, rfl⟩ := planUpdate_eq_ok_iff.1 hplan
  have heq : current = c := Except.ok.inj <|
    (Configuration.ofWire_eq_ok_iff.2 hcurrent).symm.trans (Configuration.ofWire_eq_ok_iff.2 hc)
  subst heq
  rw [Draft.get?_applyTo_change, Configuration.effect_plan]
  cases owner? key <;> rfl

theorem get?_update_of_only_eq_empty (h : w.update version guest desired = some w₁) {key : String}
    {s : Setting} (hs : owner? key = some s) (hempty : desired.only s = { }) :
    w₁.get? key = w.get? key := by
  obtain ⟨current, -, hcurrent, -⟩ := update_eq_some_iff.1 h
  rw [get?_update hcurrent h, hs]
  dsimp only
  rw [planOnly_of_only_eq_empty _ _ _ hempty]
  rfl

/-- **Two updates that ask for different settings store what both ask for**, as if they had been
made at once from where the first one started. -/
theorem get?_update_update (hc : Holds w c) (h₁ : w.update version guest desired₁ = some w₁)
    (h₂ : w₁.update version guest desired₂ = some w₂) (hdisjoint : desired₁.AreDisjoint desired₂)
    (hleft : ∀ s, desired₂.only s = { } → desired.only s = desired₁.only s)
    (hright : ∀ s, desired₁.only s = { } → desired.only s = desired₂.only s) (key : String) :
    w₂.get? key =
      match owner? key with
      | some s => ((planOnly version (some guest) c desired s).effect key).applyTo (w.get? key)
      | none => w.get? key := by
  obtain ⟨c₁, -, hc₁, -⟩ := update_eq_some_iff.1 h₂
  have hfirst := get?_update hc h₁ key
  have hsecond := get?_update hc₁ h₂ key
  cases hs : owner? key with
  | none =>
    rw [hs] at hfirst hsecond
    rw [hsecond, hfirst]
  | some s =>
    rw [hs] at hfirst hsecond
    dsimp only at hfirst hsecond ⊢
    rcases hdisjoint s with hempty | hempty
    · -- the first update left the setting alone, so the second one starts from the same value
      have hkeys (key : String) (hkey : owner? key = some s) : w₁.get? key = w.get? key :=
        get?_update_of_only_eq_empty h₁ hkey hempty
      have hbase : c₁.only s = c.only s := Configuration.only_congr hc hc₁ hkeys
      rw [hsecond, hkeys key hs, planOnly_congr _ _ hbase (hright s hempty).symm]
    · rw [get?_update_of_only_eq_empty h₂ hs hempty, hfirst,
        planOnly_congr _ _ rfl (hleft s hempty).symm]

/-! ## Independence -/

/-- **Independent updates commute and compose.**  If two configurations have no setting in common,
it does not matter for what is stored in the end which of them is asked for first, nor whether
both are asked for at once. -/
theorem update_comm {w₁₂ w₂₁ w' : Wire} (hdisjoint : desired₁.AreDisjoint desired₂)
    (h₁₂ : (w.update version guest desired₁).bind (·.update version guest desired₂) = some w₁₂)
    (h₂₁ : (w.update version guest desired₂).bind (·.update version guest desired₁) = some w₂₁)
    (h : w.update version guest (desired₁.combine desired₂) = some w') :
    w₁₂ = w' ∧ w₂₁ = w' := by
  obtain ⟨w₁, hw₁, hw₁₂⟩ := Option.bind_eq_some_iff.1 h₁₂
  obtain ⟨w₂, hw₂, hw₂₁⟩ := Option.bind_eq_some_iff.1 h₂₁
  obtain ⟨c, -, hc, -⟩ := update_eq_some_iff.1 h
  have hleft (s : Setting) : desired₂.only s = { } →
      (desired₁.combine desired₂).only s = desired₁.only s := Configuration.only_combine_left
  have hright (s : Setting) : desired₁.only s = { } →
      (desired₁.combine desired₂).only s = desired₂.only s := Configuration.only_combine_right
  refine ⟨SortedMap.ext fun key ↦ ?_, SortedMap.ext fun key ↦ ?_⟩
  · rw [get?_update_update hc hw₁ hw₁₂ hdisjoint hleft hright, get?_update hc h]
  · rw [get?_update_update hc hw₂ hw₂₁ hdisjoint.symm hright hleft, get?_update hc h]

/-- A guest that starts with its host, with a weight for its share of the memory. -/
def autostartGuest : Wire :=
  .ofList [("memory", .int 512), ("onboot", .int 1), ("shares", .int 9)]

/-- What is asked for to double the memory, which leaves no balloon for the weight to count for. -/
def doubledMemory : Configuration where
  memory := some { capacity := some 1024 }

/-- What is asked for to start the guest by hand. -/
def manualStart : Configuration where
  onBoot := some false

/-- What is stored for that guest in the end. -/
def manualGuest : Wire :=
  .ofList [("memory", .int 1024), ("onboot", .int 0)]

/-- More memory and no start with the host, in either order and at once: both are stored, and the
weight is gone. -/
theorem update_comm_memory_onBoot :
    (autostartGuest.update ⟨8, 1, 0⟩ ⟨100, by decide, by decide⟩ doubledMemory).bind
        (·.update ⟨8, 1, 0⟩ ⟨100, by decide, by decide⟩ manualStart) = some manualGuest ∧
      (autostartGuest.update ⟨8, 1, 0⟩ ⟨100, by decide, by decide⟩ manualStart).bind
        (·.update ⟨8, 1, 0⟩ ⟨100, by decide, by decide⟩ doubledMemory) = some manualGuest ∧
      autostartGuest.update ⟨8, 1, 0⟩ ⟨100, by decide, by decide⟩
        (doubledMemory.combine manualStart) = some manualGuest := by
  have h : autostartGuest.update ⟨8, 1, 0⟩ ⟨100, by decide, by decide⟩
      (doubledMemory.combine manualStart) = some manualGuest := rfl
  have hsome₁₂ : ((autostartGuest.update ⟨8, 1, 0⟩ ⟨100, by decide, by decide⟩ doubledMemory).bind
      (·.update ⟨8, 1, 0⟩ ⟨100, by decide, by decide⟩ manualStart)).isSome := by decide +kernel
  have hsome₂₁ : ((autostartGuest.update ⟨8, 1, 0⟩ ⟨100, by decide, by decide⟩ manualStart).bind
      (·.update ⟨8, 1, 0⟩ ⟨100, by decide, by decide⟩ doubledMemory)).isSome := by decide +kernel
  obtain ⟨w₁₂, h₁₂⟩ := Option.isSome_iff_exists.1 hsome₁₂
  obtain ⟨w₂₁, h₂₁⟩ := Option.isSome_iff_exists.1 hsome₂₁
  obtain ⟨rfl, rfl⟩ := update_comm (fun s ↦ by cases s <;> decide) h₁₂ h₂₁ h
  exact ⟨h₁₂, h₂₁, h⟩

end Wire

end GuestConfig
