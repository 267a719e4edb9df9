import GuestConfig.Plan.Placement
import GuestConfig.Proofs.Plan.Effect
import GuestConfig.Sorted.Map

/-!
# What a plan does to the slots of a family

A family of devices is planned slot by slot, and every slot is a key of its own.  As long as a
placement writes under the key that it is given and nowhere else, the plan of the whole family can
be read one slot at a time.

## What is here

* `Slot.key_inj` — different slots of a family are different keys.
* `Placement.IsLocal` — a placement that keeps to its key; `Placement.isLocal_byText` is the usual
  case.
* `Placement.effect_plan` — what the plan of a family does to the key of a slot.
* `Placement.touchesOnly_plan` — it is about the keys of its slots only.
* `Placement.plan_eq_nil` — when there is nothing to do; `Placement.place_eq_nil_of_plan` and
  `Placement.isSome_of_plan_eq_nil` — what that means.
* `Placement.refusal?_place_of_plan` — what it means that a plan is not refused.
-/

set_option autoImplicit false

namespace GuestConfig

/-! ## Keys of slots -/

/-- **Different slots of a family are different keys.** -/
theorem Slot.key_inj {kind : SlotKind} {stem : String} {a b : Slot kind}
    (h : a.key stem = b.key stem) : a = b := by
  have ha : ofKey? stem (b.key stem) = some a := h ▸ ofKey?_key stem a
  exact Option.some.inj (ha.symm.trans (ofKey?_key stem b))

/-- The first slot of a kind. -/
def Slot.first (kind : SlotKind) : Slot kind :=
  ⟨0, Nat.zero_le _⟩

/-! ## Drafts that are made of parts -/

namespace Draft

/-- A draft that is made of parts is refused for the cause of the first part that is. -/
theorem refusal?_flatMap {α : Type} (items : List α) (f : α → Draft) :
    refusal? (items.flatMap f) = items.findSome? fun a ↦ refusal? (f a) := by
  induction items with
  | nil => rfl
  | cons a rest ih =>
    rw [List.flatMap_cons, refusal?_append, ih, List.findSome?_cons]
    cases refusal? (f a) <;> rfl

theorem refusal?_flatMap_eq_none_iff {α : Type} {items : List α} {f : α → Draft} :
    refusal? (items.flatMap f) = none ↔ ∀ a ∈ items, refusal? (f a) = none := by
  rw [refusal?_flatMap, List.findSome?_eq_none_iff]

/-- If only one part can be refused, the draft is refused as that part is. -/
theorem refusal?_flatMap_of_ne {α : Type} {items : List α} {f : α → Draft} {a : α} (ha : a ∈ items)
    (h : ∀ b, b ≠ a → refusal? (f b) = none) : refusal? (items.flatMap f) = refusal? (f a) := by
  rw [refusal?_flatMap]
  cases hfirst : items.findSome? fun b ↦ refusal? (f b) with
  | none => exact (List.findSome?_eq_none_iff.1 hfirst a ha).symm
  | some cause =>
    obtain ⟨b, -, hb⟩ := List.exists_of_findSome?_eq_some hfirst
    by_cases hne : b = a
    · exact hne ▸ hb.symm
    · rw [h b hne] at hb
      cases hb

/-- A draft that is made slot by slot, as one slot sees it. -/
theorem effect_flatMap_toList {kind : SlotKind} {α : Type} (stem : String) (m : SlotMap kind α)
    {f : Slot kind × α → Draft} (hf : ∀ e, TouchesOnly (· = e.1.key stem) (f e))
    (slot : Slot kind) :
    effect (slot.key stem) (m.toList.flatMap f) =
      match m.get? slot with
      | some a => effect (slot.key stem) (f (slot, a))
      | none => .keep := by
  have hne (e : Slot kind × α) (h : slot ≠ e.1) : effect (slot.key stem) (f e) = .keep :=
    effect_eq_keep (hf e) fun heq ↦ h (Slot.key_inj heq)
  obtain ⟨entries, sorted⟩ := m
  induction entries with
  | nil => rfl
  | cons e rest ih =>
    obtain ⟨hhead, hrest⟩ := List.pairwise_cons.1 sorted
    have ih := ih hrest
    simp only [SortedMap.get?] at ih ⊢
    rw [List.flatMap_cons, effect_append, ih, SortedMap.Entries.get?]
    by_cases h : slot = e.1
    · -- the slot comes once, so that nothing that follows can be about it
      have hnone : SortedMap.Entries.get? slot rest = none := by
        cases hg : SortedMap.Entries.get? slot rest with
        | none => rfl
        | some a =>
          have := hhead _ (SortedMap.Entries.mem_of_get? hg)
          exact absurd (h ▸ this) (StrictOrder.irrefl _)
      rw [if_pos h, hnone, h]
      exact Effect.andThen_keep _
    · rw [if_neg h, hne e h]
      exact Effect.keep_andThen _

end Draft

/-! ## Placements -/

namespace Placement

variable {α : Type} {kind : SlotKind}

/-- A placement whose steps are about the key that they are given. -/
structure IsLocal (p : Placement α) : Prop where
  /-- Placing a device is about its key. -/
  place (key : String) (existing : Option α) (device : α) :
    (p.place key existing device).TouchesOnly (· = key)
  /-- Removing a device is about its key. -/
  remove (key : String) (device : α) : (p.remove key device).TouchesOnly (· = key)

theorem isLocal_byText (text : α → String) (plugReboot changeReboot : Bool) :
    (byText text plugReboot changeReboot).IsLocal where
  place key existing device := by
    simp only [byText]
    repeat' split
    all_goals simp [Draft.touchesOnly_cons, Step.key?]
  remove key device := by simp [byText, Draft.touchesOnly_cons, Step.key?]

variable {p : Placement α} {stem : String}

/-- **A family is planned slot by slot.** -/
theorem effect_plan (hp : p.IsLocal) (current : Option (SlotMap kind α)) (desired : SlotMap kind α)
    (slot : Slot kind) :
    (p.plan stem current (some desired)).effect (slot.key stem) =
      match desired.get? slot, (current.getD .empty).get? slot with
      | some device, existing => (p.place (slot.key stem) existing device).effect (slot.key stem)
      | none, some existing => (p.remove (slot.key stem) existing).effect (slot.key stem)
      | none, none => .keep := by
  have hplace := Draft.effect_flatMap_toList stem desired
    (f := fun e ↦ p.place (e.1.key stem) ((current.getD .empty).get? e.1) e.2)
    (fun e ↦ hp.place _ _ _) slot
  have hremove := Draft.effect_flatMap_toList stem (current.getD .empty)
    (f := fun e ↦ if desired.contains e.1 then [] else p.remove (e.1.key stem) e.2)
    (fun e ↦ by
      split
      · exact Draft.touchesOnly_nil
      · exact hp.remove _ _) slot
  simp only [plan, placeAll, removeOthers, Draft.effect_append] at *
  rw [hplace, hremove]
  cases hd : desired.get? slot <;> cases hc : (current.getD .empty).get? slot <;>
    simp [SortedMap.contains, hd]

/-- **The plan of a family is about the keys of its slots.** -/
theorem touchesOnly_plan (hp : p.IsLocal) (current desired : Option (SlotMap kind α)) :
    (p.plan stem current desired).TouchesOnly
      fun key ↦ ∃ slot : Slot kind, key = slot.key stem := by
  cases desired with
  | none => exact Draft.touchesOnly_nil
  | some desired =>
    refine Draft.touchesOnly_append.2 ⟨Draft.touchesOnly_flatMap fun e _ ↦ ?_,
      Draft.touchesOnly_flatMap fun e _ ↦ ?_⟩
    · exact (hp.place _ _ _).mono fun key h ↦ ⟨e.1, h⟩
    · dsimp only
      split
      · exact Draft.touchesOnly_nil
      · exact (hp.remove _ _).mono fun key h ↦ ⟨e.1, h⟩

/-- There is nothing to do if every desired device is there already and there is no other. -/
theorem plan_eq_nil {current : Option (SlotMap kind α)} {desired : SlotMap kind α}
    (hplace : ∀ slot device, desired.get? slot = some device →
      p.place (slot.key stem) ((current.getD .empty).get? slot) device = [])
    (hremove : ∀ slot, ((current.getD .empty).get? slot).isSome → (desired.get? slot).isSome) :
    p.plan stem current (some desired) = [] := by
  simp only [plan, placeAll, removeOthers, List.append_eq_nil_iff, List.flatMap_eq_nil_iff]
  refine ⟨fun e he ↦ hplace _ _ (desired.mem_toList_iff.1 he), fun e he ↦ ?_⟩
  have hcurrent := ((current.getD .empty).mem_toList_iff (k := e.1) (v := e.2)).1 he
  have hcontains : desired.contains e.1 = true := hremove e.1 (by rw [hcurrent]; rfl)
  rw [if_pos hcontains]

theorem place_eq_nil_of_plan {current : Option (SlotMap kind α)} {desired : SlotMap kind α}
    (h : p.plan stem current (some desired) = []) {slot : Slot kind} {device : α}
    (hd : desired.get? slot = some device) :
    p.place (slot.key stem) ((current.getD .empty).get? slot) device = [] := by
  rw [plan, List.append_eq_nil_iff] at h
  exact List.flatMap_eq_nil_iff.1 h.1 (slot, device) (desired.mem_toList_iff.2 hd)

theorem isSome_of_plan_eq_nil {current : Option (SlotMap kind α)} {desired : SlotMap kind α}
    (h : p.plan stem current (some desired) = []) (hremove : ∀ key device, p.remove key device ≠ [])
    {slot : Slot kind} (hslot : ((current.getD .empty).get? slot).isSome) :
    (desired.get? slot).isSome := by
  obtain ⟨device, hdevice⟩ := Option.isSome_iff_exists.1 hslot
  rw [plan, List.append_eq_nil_iff] at h
  have hstep := List.flatMap_eq_nil_iff.1 h.2 (slot, device)
    ((current.getD .empty).mem_toList_iff.2 hdevice)
  exact Decidable.byContradiction fun hnot ↦ hremove _ _ ((if_neg hnot).symm.trans hstep)

theorem plan_self {current : Option (SlotMap kind α)}
    (h : ∀ devices, current = some devices → ∀ slot device, devices.get? slot = some device →
      p.place (slot.key stem) (some device) device = []) :
    p.plan stem current current = [] := by
  cases current with
  | none => rfl
  | some devices =>
    refine plan_eq_nil (fun slot device hd ↦ ?_) fun slot hs ↦ hs
    rw [Option.getD_some, hd]
    exact h devices rfl slot device hd

theorem refusal?_place_of_plan {current : Option (SlotMap kind α)} {desired : SlotMap kind α}
    (h : (p.plan stem current (some desired)).refusal? = none) {slot : Slot kind} {device : α}
    (hd : desired.get? slot = some device) :
    (p.place (slot.key stem) ((current.getD .empty).get? slot) device).refusal? = none := by
  rw [plan, Draft.refusal?_append, Option.or_eq_none_iff] at h
  exact Draft.refusal?_flatMap_eq_none_iff.1 h.1 (slot, device) (desired.mem_toList_iff.2 hd)

end Placement

end GuestConfig
