import GuestConfig.Proofs.Plan.Family
import GuestConfig.Proofs.Sorted
import GuestConfig.Proofs.Wire.Field

/-!
# Reading back a family of devices

A family is decoded from all keys that are slots of it.  The number in such a key may have leading
zeros, so that one slot can have several spellings.  As long as every slot of a family is spelled
the way it is written, a family is decoded slot by slot, and each slot like a setting of its own.

## What is here

* `Wire.slots_congr` — a family is decoded from its own keys only; `Wire.slots_mapValues` says that
  it does not matter either how a device is written, as long as it decodes to the same.
* `Wire.exists_of_slots`, `Wire.exists_decode_of_slots` — every device of a family was decoded from
  some text.
* `Wire.HasPlainKeys` — every slot of a family is spelled the way it is written;
  `Wire.exists_slots_of_decoded?` — then it can be decoded if each of its slots can.
-/

set_option autoImplicit false

namespace GuestConfig

namespace Wire

variable {α : Type} {kind : SlotKind} {stem : String} {w w' : Wire}
  {decode : String → Except WireError α}

/-! ## The entries of a family -/

theorem mem_family_iff {slot : Slot kind} {key : String} {v : Value} :
    (slot, key, v) ∈ w.family kind stem ↔
      w.get? key = some v ∧ Slot.ofKey? stem key = some slot := by
  rw [← w.mem_toList_iff]
  simp only [family, List.mem_filterMap, Option.map_eq_some_iff, Prod.mk.injEq, Prod.exists]
  constructor
  · rintro ⟨_, _, hmem, _, hslot, rfl, rfl, rfl⟩
    exact ⟨hmem, hslot⟩
  · rintro ⟨hmem, hslot⟩
    exact ⟨key, v, hmem, slot, hslot, rfl, rfl, rfl⟩

theorem family_congr
    (h : ∀ key, (Slot.ofKey? stem key : Option (Slot kind)).isSome → w'.get? key = w.get? key) :
    w'.family kind stem = w.family kind stem := by
  -- both objects agree on the entries that a family keeps, and those ascend in both
  let own (e : String × Value) : Bool := (Slot.ofKey? stem e.1 : Option (Slot kind)).isSome
  have hfilter : w'.toList.filter own = w.toList.filter own := by
    refine SortedMap.Entries.eq_of_mem_iff (w'.sorted.sublist List.filter_sublist)
      (w.sorted.sublist List.filter_sublist) fun e ↦ ?_
    obtain ⟨key, v⟩ := e
    rw [List.mem_filter, List.mem_filter, w'.mem_toList_iff, w.mem_toList_iff]
    exact and_congr_left fun hown ↦ by rw [h key hown]
  have hfamily (u : Wire) : u.family kind stem = (u.toList.filter own).filterMap fun e ↦
      (Slot.ofKey? stem e.1).map fun slot ↦ (slot, e.1, e.2) := by
    rw [family, List.filterMap_filter]
    refine congrArg (List.filterMap · u.toList) (funext fun e ↦ ?_)
    by_cases hown : own e = true
    · rw [if_pos hown]
    · have hnone : (Slot.ofKey? stem e.1 : Option (Slot kind)) = none := by simpa [own] using hown
      rw [if_neg hown]
      dsimp only
      rw [hnone, Option.map_none]
  rw [hfamily, hfamily, hfilter]

/-- **A family is decoded from its own keys only.** -/
theorem slots_congr
    (h : ∀ key, (Slot.ofKey? stem key : Option (Slot kind)).isSome → w'.get? key = w.get? key) :
    w'.slots kind stem decode = w.slots kind stem decode := by
  rw [slots, slots, family_congr h]

/-! ## Decoding a family -/

theorem device_eq {key : String} {v : Value} (h : w.get? key = some v) (slot : Slot kind) :
    device decode (slot, key, v) = (w.decoded? key decode).map (Option.map (Prod.mk slot)) := by
  rw [decoded?, field?, h]
  cases v with
  | null => rfl
  | _ =>
    dsimp only [device]
    generalize (readText _ >>= decode) = result
    cases result <;> rfl

/-- **A family is decoded alike from other values that decode to the same devices.** -/
theorem slots_mapValues {f : String → Value → Value}
    (h : ∀ (slot : Slot kind) (key : String) (v : Value), w.get? key = some v →
      device decode (slot, key, f key v) = device decode (slot, key, v)) :
    slots (w.mapValues f) kind stem decode = w.slots kind stem decode := by
  have hfamily : family (w.mapValues f) kind stem =
      (w.family kind stem).map fun e ↦ (e.1, e.2.1, f e.2.1 e.2.2) := by
    rw [family, family, SortedMap.mapValues, List.filterMap_map, List.map_filterMap]
    refine congrArg (List.filterMap · w.toList) (funext fun e ↦ ?_)
    rw [Function.comp_apply, Option.map_map]
    rfl
  have hdevices : (family (w.mapValues f) kind stem).map (device decode) =
      (w.family kind stem).map (device decode) := by
    rw [hfamily, List.map_map]
    exact List.map_congr_left fun e he ↦ h e.1 e.2.1 e.2.2 (mem_family_iff.1 he).1
  -- reading one key after another depends only on what each of them gives
  have hread (entries : List (Slot kind × String × Value)) :
      entries.mapM (device decode) = (entries.map (device decode)).mapM id := by
    rw [List.mapM_map]
    rfl
  rw [slots, slots, hread, hdevices, ← hread]

/-- The devices that are decoded from a family whose every key is read. -/
theorem slots_eq_ok {found : List (Option (Slot kind × α))}
    (h : (w.family kind stem).map (device decode) = found.map .ok) :
    w.slots kind stem decode = .ok (if (found.filterMap id).isEmpty then none
      else some (.ofList (found.filterMap id))) := by
  rw [slots, mapM_eq_ok_iff.2 h]
  rfl

theorem exists_of_slots_eq_ok {m : Option (SlotMap kind α)}
    (h : w.slots kind stem decode = .ok m) :
    ∃ found : List (Option (Slot kind × α)),
      (w.family kind stem).map (device decode) = found.map .ok ∧
        m = if (found.filterMap id).isEmpty then none else some (.ofList (found.filterMap id)) := by
  obtain ⟨found, hfound, hm⟩ := bind_eq_ok_iff.1 h
  exact ⟨found, mapM_eq_ok_iff.1 hfound, (pure_eq_ok_iff.1 hm).symm⟩

theorem mem_found_iff {found : List (Option (Slot kind × α))}
    (h : (w.family kind stem).map (device decode) = found.map .ok) {slot : Slot kind} {a : α} :
    (slot, a) ∈ found.filterMap id ↔
      ∃ key, Slot.ofKey? stem key = some slot ∧ w.decoded? key decode = .ok (some a) := by
  have hmem : (slot, a) ∈ found.filterMap id ↔
      (.ok (some (slot, a)) : Except WireError _) ∈ (w.family kind stem).map (device decode) := by
    rw [h, List.mem_filterMap, List.mem_map]
    simp
  rw [hmem, List.mem_map]
  constructor
  · rintro ⟨⟨slot', key, v⟩, hfamily, hdevice⟩
    obtain ⟨hv, hslot⟩ := mem_family_iff.1 hfamily
    rw [device_eq hv, map_eq_ok_iff] at hdevice
    obtain ⟨o, ho, hpair⟩ := hdevice
    obtain ⟨b, rfl, hb⟩ := Option.map_eq_some_iff.1 hpair
    obtain ⟨rfl, rfl⟩ := Prod.mk.inj hb
    exact ⟨key, hslot, ho⟩
  · rintro ⟨key, hslot, hdecoded⟩
    obtain ⟨v, s, hv, -⟩ := decoded?_eq_some_iff.1 hdecoded
    exact ⟨(slot, key, v), mem_family_iff.2 ⟨hv, hslot⟩, by rw [device_eq hv, hdecoded]; rfl⟩

theorem slots_ne_empty (h : w.slots kind stem decode = .ok (some .empty)) : False := by
  obtain ⟨found, -, hm⟩ := exists_of_slots_eq_ok h
  split at hm
  · cases hm
  · next hne =>
    obtain ⟨e, he⟩ := List.exists_mem_of_ne_nil _ (mt List.isEmpty_iff.2 hne)
    have hfind : ((found.filterMap id).reverse.find? fun e' ↦ e'.1 = e.1).isSome := by
      rw [List.find?_isSome]
      exact ⟨e, List.mem_reverse.2 he, by simp⟩
    have hget : (SortedMap.ofList (found.filterMap id)).get? e.1 = none := by
      rw [← Option.some.inj hm]
      rfl
    rw [SortedMap.get?_ofList, Option.map_eq_none_iff] at hget
    rw [hget] at hfind
    cases hfind

/-- **Every device of a family was decoded from some text under one of its keys.** -/
theorem exists_of_slots {devices : SlotMap kind α}
    (h : w.slots kind stem decode = .ok (some devices)) {slot : Slot kind} {a : α}
    (ha : devices.get? slot = some a) :
    ∃ key, Slot.ofKey? stem key = some slot ∧ w.decoded? key decode = .ok (some a) := by
  obtain ⟨found, hfound, hm⟩ := exists_of_slots_eq_ok h
  split at hm
  · cases hm
  · rw [Option.some.inj hm, ← SortedMap.mem_toList_iff] at ha
    exact (mem_found_iff hfound).1 (SortedMap.mem_of_mem_ofList ha)

theorem exists_decode_of_slots {devices : Option (SlotMap kind α)}
    (h : w.slots kind stem decode = .ok devices) {slot : Slot kind} {a : α}
    (ha : (devices.getD .empty).get? slot = some a) : ∃ s, decode s = .ok a := by
  cases devices with
  | none => cases ha
  | some devices =>
    obtain ⟨key, -, hdecoded⟩ := exists_of_slots h ha
    obtain ⟨v, s, -, -, -, hs⟩ := decoded?_eq_some_iff.1 hdecoded
    exact ⟨s, hs⟩

/-! ## Families with plain keys -/

/-- A slot is spelled the way it is written only, without zeros in front. -/
def HasPlainKey (w : Wire) {kind : SlotKind} (stem : String) (slot : Slot kind) : Prop :=
  ∀ key, (w.get? key).isSome → Slot.ofKey? stem key = some slot → key = slot.key stem

/-- Every slot of a family is spelled the way it is written. -/
def HasPlainKeys (w : Wire) (kind : SlotKind) (stem : String) : Prop :=
  ∀ slot : Slot kind, w.HasPlainKey stem slot

theorem hasPlainKeys_iff :
    w.HasPlainKeys kind stem ↔ ∀ e ∈ w.toList,
      (Slot.ofKey? stem e.1 : Option (Slot kind)).all fun slot ↦ e.1 = slot.key stem := by
  simp only [Option.all_eq_true, decide_eq_true_eq]
  constructor
  · intro h e he slot hslot
    exact h slot e.1 (by rw [(w.mem_toList_iff (k := e.1) (v := e.2)).1 he]; rfl) hslot
  · intro h slot key hkey hslot
    obtain ⟨v, hv⟩ := Option.isSome_iff_exists.1 hkey
    exact h (key, v) (w.mem_toList_iff.2 hv) slot hslot

instance : Decidable (w.HasPlainKeys kind stem) :=
  decidable_of_iff _ hasPlainKeys_iff.symm

/-- What a slot with a plain key decodes to is what its key decodes to. -/
theorem decoded?_of_slots {slot : Slot kind} (hplain : w.HasPlainKey stem slot)
    {m : Option (SlotMap kind α)} (h : w.slots kind stem decode = .ok m) :
    w.decoded? (slot.key stem) decode = .ok ((m.getD .empty).get? slot) := by
  obtain ⟨found, hfound, hm⟩ := exists_of_slots_eq_ok h
  have hmem {a : α} : (slot, a) ∈ found.filterMap id ↔
      w.decoded? (slot.key stem) decode = .ok (some a) := by
    rw [mem_found_iff hfound]
    constructor
    · rintro ⟨key, hslot, hdecoded⟩
      obtain ⟨v, s, hv, -⟩ := decoded?_eq_some_iff.1 hdecoded
      rwa [← hplain key (by rw [hv]; rfl) hslot]
    · exact fun hdecoded ↦ ⟨_, Slot.ofKey?_key stem slot, hdecoded⟩
  have hunique (b c : α) (hb : (slot, b) ∈ found.filterMap id)
      (hc : (slot, c) ∈ found.filterMap id) : b = c := by
    have := (hmem.1 hb).symm.trans (hmem.1 hc)
    simpa using this
  have hget {a : α} : (m.getD .empty).get? slot = some a ↔ (slot, a) ∈ found.filterMap id := by
    rw [hm]
    split
    · next hnil =>
      rw [List.isEmpty_iff.1 hnil]
      simp
    · exact SortedMap.get?_ofList_eq_some_iff hunique
  cases hg : (m.getD .empty).get? slot with
  | some a => exact hmem.1 (hget.1 hg)
  | none =>
    -- the key was read, and it cannot have given a device
    cases hv : w.get? (slot.key stem) with
    | none => exact field?_of_get?_none hv
    | some v =>
      have hfamily := mem_family_iff.2 ⟨hv, Slot.ofKey?_key stem slot⟩
      have hread := List.mem_map_of_mem (f := device decode) hfamily
      rw [hfound, device_eq hv] at hread
      obtain ⟨o, -, ho⟩ := List.mem_map.1 hread
      obtain ⟨o', ho', -⟩ := map_eq_ok_iff.1 ho.symm
      rw [ho']
      cases o' with
      | none => rfl
      | some a =>
        rw [hget.2 (hmem.2 ho')] at hg
        cases hg

theorem exists_slots_of_decoded? (hplain : w.HasPlainKeys kind stem) {f : Slot kind → Option α}
    (h : ∀ slot : Slot kind, w.decoded? (slot.key stem) decode = .ok (f slot)) :
    ∃ m, w.slots kind stem decode = .ok m ∧ ∀ slot, (m.getD .empty).get? slot = f slot := by
  have hfound : (w.family kind stem).map (device decode) =
      ((w.family kind stem).map fun e ↦ (f e.1).map (Prod.mk e.1)).map .ok := by
    rw [List.map_map]
    refine List.map_congr_left fun e he ↦ ?_
    obtain ⟨slot, key, v⟩ := e
    obtain ⟨hv, hslot⟩ := mem_family_iff.1 he
    rw [device_eq hv, hplain slot key (by rw [hv]; rfl) hslot, h slot]
    rfl
  have hok := slots_eq_ok hfound
  exact ⟨_, hok, fun slot ↦
    Except.ok.inj ((decoded?_of_slots (hplain slot) hok).symm.trans (h slot))⟩

end Wire

end GuestConfig
