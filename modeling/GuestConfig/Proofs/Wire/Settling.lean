import GuestConfig.Proofs.OptionList
import GuestConfig.Proofs.Plan.Family
import GuestConfig.Proofs.Setting
import GuestConfig.Proofs.Wire.Family

/-!
# Planning what was planned

An update is planned from what is stored, and what it stores is where the next one starts.  A
setting is *settled* if planning it once more finds nothing to do.  For a setting under a single key
that is a matter of the effect on the key: either the key was left alone, and then there was
nothing to do in the first place; or it was written, and the written text has to decode to a value
that leaves nothing to do; or it was deleted.  A family is settled when each of its slots is.

## What is here

* `Effect.Settles` — after an effect a key decodes to a value with a property.
* `Draft.settles_rendered` — **a setting that is compared by its text is settled.**
* `Wire.Follows` — the keys of a setting are as a draft leaves them.
* `Wire.HasPlainOptions` — options that could stand first as well as under their names.
* `Wire.exists_decoded?` and `Wire.exists_slots` — what a key and a family decode to after a change.
* `Placement.settles` — **a family is settled if each device that is placed is.**
* `Placement.settles_byText` — devices whose text decodes to themselves.
-/

set_option autoImplicit false

namespace GuestConfig

/-- After the effect a key decodes to a value with a property. -/
def Effect.Settles {α : Type} (decode : String → Except WireError α) (before : Option α)
    (p : Option α → Prop) : Effect → Prop
  | keep => p before
  | set v => ∃ s a, v = .text s ∧ decode s = .ok a ∧ p (some a)
  | delete => p none

theorem Effect.Settles.mono {α : Type} {decode : String → Except WireError α} {before : Option α}
    {p q : Option α → Prop} {e : Effect} (h : e.Settles decode before p) (himp : ∀ a, p a → q a) :
    e.Settles decode before q := by
  cases e with
  | keep => exact himp _ h
  | set v =>
    obtain ⟨s, a, hv, ha, hp⟩ := h
    exact ⟨s, a, hv, ha, himp _ hp⟩
  | delete => exact himp _ h

/-- **A setting that is compared by its text is settled**, if what is asked for changes nothing more
about the text that was written. -/
theorem Draft.settles_rendered {α : Type} {decode : String → Except WireError α} (key : String)
    (text : α → String) (merge : α → α) (empty : α) {current : Option α} {stored : α}
    (hdecode : decode (text (merge (current.getD empty))) = .ok stored)
    (hempty : decode "" = .ok empty)
    (htext : text stored = text (merge (current.getD empty)))
    (hmerge : text (merge stored) = text (merge (current.getD empty))) :
    ((Draft.rendered key (current.map text) (text (merge (current.getD empty)))).effect
      key).Settles decode current fun after ↦
        Draft.rendered key (after.map text) (text (merge (after.getD empty))) = [] := by
  generalize hwritten : text (merge (current.getD empty)) = written at *
  -- an empty text is not stored, and it would have been read as nothing
  have hnone (h : written = "") : Draft.rendered key none (text (merge empty)) = [] := by
    have hstored : stored = empty := Except.ok.inj (hdecode.symm.trans (h ▸ hempty))
    have hmerged : text (merge empty) = "" := hstored ▸ hmerge.trans h
    simp [rendered, hmerged]
  rw [effect_rendered]
  split
  · next hsame =>
    rw [Effect.Settles, hwritten]
    simp only [rendered, if_pos hsame]
  · next hchange =>
    split
    · refine ⟨written, stored, rfl, hdecode, ?_⟩
      dsimp only
      rw [Option.map_some, Option.getD_some, htext, hmerge]
      exact rendered_self key written
    · next hempty =>
      have hwritten' : written = "" := Decidable.not_not.1 hempty
      split
      · exact hnone hwritten'
      · next hbefore =>
        rw [Effect.Settles, hwritten]
        simp only [rendered, if_neg hchange, if_neg hempty, if_neg hbefore]

/-! ## What is stored after a change -/

namespace Wire

variable {α : Type} {w w' : Wire} {decode : String → Except WireError α}

/-- The keys of a setting are as a draft leaves them. -/
def Follows (w' : Wire) (s : Setting) (draft : Draft) (w : Wire) : Prop :=
  ∀ key, Setting.owner? key = some s → w'.get? key = (draft.effect key).applyTo (w.get? key)

theorem Follows.get?_eq {s : Setting} {draft : Draft} (h : w'.Follows s draft w) {key : String}
    {e : Effect} (howner : Setting.owner? key = some s) (he : draft.effect key = e) :
    w'.get? key = e.applyTo (w.get? key) :=
  he ▸ h key howner

/-- No value in the list of options under a key has a second `=`. -/
def HasPlainOptions (w : Wire) (key : String) : Prop :=
  ∀ s, w.text? key = .ok (some s) → ∀ e ∈ (OptionList.parse s).entries, '=' ∉ e.value.toList

theorem hasPlainOptions_iff {key : String} :
    w.HasPlainOptions key ↔ ∀ s ∈ (w.text? key).toOption.join,
      ∀ e ∈ (OptionList.parse s).entries, '=' ∉ e.value.toList := by
  simp only [HasPlainOptions, Option.mem_def, Option.join_eq_some_iff, toOption_eq_some_iff]

instance (key : String) : Decidable (w.HasPlainOptions key) :=
  decidable_of_iff _ hasPlainOptions_iff.symm

/-- **What a key decodes to after a change.** -/
theorem exists_decoded? {key : String} {before : Option α} {p : Option α → Prop} {e : Effect}
    (h : w.decoded? key decode = .ok before) (hafter : w'.get? key = e.applyTo (w.get? key))
    (hsettles : e.Settles decode before p) :
    ∃ after, w'.decoded? key decode = .ok after ∧ p after := by
  cases e with
  | keep => exact ⟨before, (decoded?_congr hafter).trans h, hsettles⟩
  | set v =>
    obtain ⟨s, a, rfl, ha, hp⟩ := hsettles
    exact ⟨some a, decoded?_of_get? hafter ha, hp⟩
  | delete => exact ⟨none, field?_of_get?_none hafter, hsettles⟩

/-- **What a family decodes to after a change**, slot by slot. -/
theorem exists_slots {kind : SlotKind} {stem : String} {before : Option (SlotMap kind α)}
    {p : Slot kind → Option α → Prop} {e : Slot kind → Effect} (hplain : w.HasPlainKeys kind stem)
    (hplain' : w'.HasPlainKeys kind stem) (h : w.slots kind stem decode = .ok before)
    (hafter : ∀ slot : Slot kind,
      w'.get? (slot.key stem) = (e slot).applyTo (w.get? (slot.key stem)))
    (hsettles : ∀ slot, (e slot).Settles decode ((before.getD .empty).get? slot) (p slot)) :
    ∃ after, w'.slots kind stem decode = .ok after ∧
      ∀ slot, p slot ((after.getD .empty).get? slot) := by
  have hslot (slot : Slot kind) := exists_decoded? (decoded?_of_slots (hplain slot) h) (hafter slot)
    (hsettles slot)
  obtain ⟨f, hf⟩ := Classical.axiomOfChoice hslot
  obtain ⟨after, hok, hget⟩ := exists_slots_of_decoded? hplain' fun slot ↦ (hf slot).1
  exact ⟨after, hok, fun slot ↦ hget slot ▸ (hf slot).2⟩

/-- A change that touches only slots that are spelled plainly leaves plain keys plain. -/
theorem HasPlainKeys.of_effect {kind : SlotKind} {stem : String} {draft : Draft}
    (hplain : w.HasPlainKeys kind stem)
    (hafter : ∀ key, (Slot.ofKey? stem key : Option (Slot kind)).isSome →
      w'.get? key = (draft.effect key).applyTo (w.get? key))
    (htouches : draft.TouchesOnly fun key ↦
      ∀ slot : Slot kind, Slot.ofKey? stem key = some slot → key = slot.key stem) :
    w'.HasPlainKeys kind stem := by
  intro slot key hkey hslot
  refine Decidable.byContradiction fun hne ↦ hne ?_
  have hkeep : draft.effect key = .keep :=
    Draft.effect_eq_keep htouches fun h ↦ hne (h slot hslot)
  rw [hafter key (by rw [hslot]; rfl), hkeep] at hkey
  exact hplain slot key hkey hslot

end Wire

/-! ## Families -/

namespace Placement

variable {α : Type} {kind : SlotKind} {p : Placement α} {stem : String} {w w' : Wire}
  {decode : String → Except WireError α}

theorem touchesOnly_plain (hp : p.IsLocal) (current desired : Option (SlotMap kind α)) :
    (p.plan stem current desired).TouchesOnly fun key ↦
      ∀ slot : Slot kind, Slot.ofKey? stem key = some slot → key = slot.key stem :=
  (touchesOnly_plan hp current desired).mono fun key ⟨slot', hkey⟩ slot hslot ↦ by
    rw [hkey, Slot.ofKey?_key] at hslot
    rw [hkey, Option.some.inj hslot]

/-- **A family is settled if each device that is placed is.** -/
theorem settles (hp : p.IsLocal) (hplain : w.HasPlainKeys kind stem)
    {current : Option (SlotMap kind α)} (h : w.slots kind stem decode = .ok current)
    {desired : SlotMap kind α}
    (hafter : ∀ key, (Slot.ofKey? stem key : Option (Slot kind)).isSome →
      w'.get? key = ((p.plan stem current (some desired)).effect key).applyTo (w.get? key))
    {q : Slot kind → α → Option α → Prop}
    (hplace : ∀ slot device, desired.get? slot = some device →
      ((p.place (slot.key stem) ((current.getD .empty).get? slot) device).effect
          (slot.key stem)).Settles decode ((current.getD .empty).get? slot) fun after ↦
        p.place (slot.key stem) after device = [] ∧ q slot device after)
    (hremove : ∀ key device, (p.remove key device).effect key = .delete) :
    ∃ after, w'.slots kind stem decode = .ok after ∧ p.plan stem after (some desired) = [] ∧
      ∀ slot device, desired.get? slot = some device →
        q slot device ((after.getD .empty).get? slot) := by
  have hplain' : w'.HasPlainKeys kind stem := hplain.of_effect hafter (touchesOnly_plain hp _ _)
  obtain ⟨after, hok, hslots⟩ := Wire.exists_slots
    (p := fun slot found ↦
      (∀ device, desired.get? slot = some device →
        p.place (slot.key stem) found device = [] ∧ q slot device found) ∧
      (desired.get? slot = none → found = none))
    hplain hplain' h (fun slot ↦ hafter _ (by rw [Slot.ofKey?_key]; rfl)) fun slot ↦ by
      rw [effect_plan hp]
      cases hdesired : desired.get? slot with
      | some device =>
        refine (hplace slot device hdesired).mono fun found hfound ↦ ⟨fun other hother ↦ ?_, nofun⟩
        rwa [← Option.some.inj hother]
      | none =>
        have hfound : ∀ device, (none : Option α) = some device →
            p.place (slot.key stem) none device = [] ∧ q slot device none := nofun
        cases hcurrent : (current.getD .empty).get? slot with
        | none => exact ⟨hfound, fun _ ↦ rfl⟩
        | some device =>
          dsimp only
          rw [hremove]
          exact ⟨hfound, fun _ ↦ rfl⟩
  refine ⟨after, hok, plan_eq_nil (fun slot device hdesired ↦ ?_) fun slot hsome ↦ ?_,
    fun slot device hdesired ↦ ?_⟩
  · exact ((hslots slot).1 device hdesired).1
  · cases hdesired : desired.get? slot with
    | some device => rfl
    | none =>
      rw [(hslots slot).2 hdesired] at hsome
      cases hsome
  · exact ((hslots slot).1 device hdesired).2

/-- **Devices whose text decodes to themselves are settled.** -/
theorem settles_byText {text : α → String} (hdecode : ∀ device, decode (text device) = .ok device)
    {plugReboot changeReboot : Bool} (hplain : w.HasPlainKeys kind stem)
    {current : Option (SlotMap kind α)} (h : w.slots kind stem decode = .ok current)
    {desired : Option (SlotMap kind α)}
    (hafter : ∀ key, (Slot.ofKey? stem key : Option (Slot kind)).isSome → w'.get? key =
      (((byText text plugReboot changeReboot).plan stem current desired).effect key).applyTo
        (w.get? key)) :
    ∃ after, w'.slots kind stem decode = .ok after ∧
      (byText text plugReboot changeReboot).plan stem after desired = [] := by
  cases desired with
  | none => exact ⟨current, (Wire.slots_congr hafter).trans h, rfl⟩
  | some desired =>
    have hplace (slot : Slot kind) (device : α) (existing : Option α) :
        (((byText text plugReboot changeReboot).place (slot.key stem) existing device).effect
          (slot.key stem)).Settles decode existing fun after ↦
            (byText text plugReboot changeReboot).place (slot.key stem) after device = [] ∧
              True := by
      cases existing with
      | none => simp [byText, Step.effect, Effect.Settles, hdecode]
      | some existing =>
        by_cases hsame : text device = text existing
        · simp [byText, hsame, Effect.Settles]
        · simp [byText, hsame, Step.effect, Effect.Settles, hdecode]
    obtain ⟨after, hok, hplan, -⟩ := settles (isLocal_byText text plugReboot changeReboot) hplain h
      hafter (fun slot device _ ↦ hplace slot device _) fun key device ↦ by
        simp [byText, Step.effect]
    exact ⟨after, hok, hplan⟩

end Placement

end GuestConfig
