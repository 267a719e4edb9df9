import GuestConfig.Description.Error
import GuestConfig.Proofs.Outcome
import GuestConfig.Proofs.Sorted

/-!
# What a description says

What a description says can be told without the conversion that acts on it: which values a part of
it gives, and for which reasons it gives none.  A conversion is exact if it comes out as one of the
values or fails for one of the reasons, as the case may be, and never anything else.

A family of devices is described by a map from texts to devices.  A slot can be spelled in several
ways, `1`, `01` or `+1`, so that two entries may mean the same slot.  They are converted in
ascending order, and the last one stays.

## What is here

* `Described.IsExact` — a conversion comes out as what is told of it.
* `Checked.parse_eq_ok_iff`, `Described.checked_isExact` — texts with a grammar.
* `Described.optional_eq_ok_iff` — parts that may be absent.
* `Described.choose`, `Described.choose_isExact` — keys of which exactly one has to be given.
* `Described.EntryFails`, `Described.device_isExact` — one entry of a family.
* `Described.Fills`, `Described.slots_eq_ok_iff` — **a family of devices**, slot by slot.
-/

set_option autoImplicit false

namespace GuestConfig

/-- A key spells a slot of a kind. -/
def SlotKind.HasSlot (kind : SlotKind) (key : String) : Prop :=
  ∃ slot : Slot kind, Slot.parse key = .ok slot

/-! ## Exact conversions -/

namespace Described

variable {α β : Type}

/-- A conversion comes out as what is told of it: the values that there can be, and the reasons
that there is none. -/
structure IsExact (result : Described β) (gives : β → Prop) (fails : DescriptionError → Prop) :
    Prop where
  /-- It gives what is told. -/
  ok_iff (b : β) : result = .ok b ↔ gives b
  /-- It fails for what is told. -/
  error_iff (e : DescriptionError) : result = .error e ↔ fails e

namespace IsExact

variable {result : Described β} {gives : β → Prop} {fails : DescriptionError → Prop}

/-- Of a value and a reason only one can be told, so that it is enough to see the conversion agree
with what is told, and something be told in any case. -/
theorem of (hgives : ∀ b, gives b → result = .ok b) (hfails : ∀ e, fails e → result = .error e)
    (htold : (∃ b, gives b) ∨ ∃ e, fails e) : result.IsExact gives fails where
  ok_iff b := by
    refine ⟨fun h ↦ ?_, hgives b⟩
    rcases htold with ⟨b', hb'⟩ | ⟨e, he⟩
    · obtain rfl := Except.ok.inj (h.symm.trans (hgives b' hb'))
      exact hb'
    · cases h.symm.trans (hfails e he)
  error_iff e := by
    refine ⟨fun h ↦ ?_, hfails e⟩
    rcases htold with ⟨b, hb⟩ | ⟨e', he'⟩
    · cases h.symm.trans (hgives b hb)
    · obtain rfl := Except.error.inj (h.symm.trans (hfails e' he'))
      exact he'

theorem exists_gives_iff (h : result.IsExact gives fails) : (∃ b, gives b) ↔ ∀ e, ¬fails e := by
  simp only [← h.ok_iff, ← h.error_iff]
  cases result <;> simp

theorem cause?_eq_some_iff (h : result.IsExact gives fails) {e : DescriptionError} :
    cause? result = some e ↔ fails e :=
  GuestConfig.cause?_eq_some_iff.trans (h.error_iff e)

theorem cause?_eq_none_iff (h : result.IsExact gives fails) :
    cause? result = none ↔ ∃ b, gives b :=
  GuestConfig.cause?_eq_none_iff.trans (exists_congr h.ok_iff)

end IsExact

end Described

/-! ## Texts with a grammar -/

namespace Checked

/-- **A text is taken as it is.** -/
theorem parse_eq_ok_iff {g : Grammar} {s : String} {a : Checked g} :
    parse s = .ok a ↔ a.text = s :=
  ⟨text_of_parse, fun h ↦ h ▸ parse_text a⟩

variable {accepts : List Char → Bool} {refusal : String → RuleError} {s : String}

/-- A text is one of a grammar exactly if it passes its test. -/
theorem exists_text_eq_iff :
    (∃ a : Checked (.of accepts refusal), a.text = s) ↔ accepts s.toList = true := by
  constructor
  · rintro ⟨a, rfl⟩
    exact a.passes
  · exact fun h ↦ ⟨⟨s, if_pos h⟩, rfl⟩

end Checked

namespace Described

theorem checked_eq_ok_iff {g : Grammar} {s : String} {a : Checked g} :
    checked s = .ok a ↔ a.text = s :=
  mapError_eq_ok_iff.trans Checked.parse_eq_ok_iff

theorem checked_eq_error_iff {g : Grammar} {s : String} {e : DescriptionError} :
    (checked s : Described (Checked g)) = .error e ↔
      ∃ rule, g.violation? s = some rule ∧ e = .rule rule := by
  rw [checked, mapError_eq_error_iff]
  simp only [Checked.parse_eq_error_iff, eq_comm (a := e)]

theorem checked_of_eq_error_iff {accepts : List Char → Bool} {refusal : String → RuleError}
    {s : String} {e : DescriptionError} :
    (checked s : Described (Checked (.of accepts refusal))) = .error e ↔
      accepts s.toList = false ∧ e = .rule (refusal s) := by
  have hviolation : (Grammar.of accepts refusal).violation? s =
      if accepts s.toList then none else some (refusal s) := rfl
  rw [checked_eq_error_iff, hviolation]
  cases accepts s.toList <;> simp

/-- **A text with a grammar** is taken if it passes the test, and refused for its own sake. -/
theorem checked_isExact {accepts : List Char → Bool} {refusal : String → RuleError} (s : String) :
    (checked s : Described (Checked (.of accepts refusal))).IsExact (·.text = s)
      (fun e ↦ accepts s.toList = false ∧ e = .rule (refusal s)) :=
  ⟨fun _ ↦ checked_eq_ok_iff, fun _ ↦ checked_of_eq_error_iff⟩

/-! ## Parts that may be absent -/

section optional

variable {α β : Type} {convert : α → Described β}

/-- **A part that may be absent** is absent or given. -/
theorem optional_eq_ok_iff {gives : α → β → Prop} (h : ∀ a b, convert a = .ok b ↔ gives a b)
    {part : Option α} {result : Option β} :
    optional convert part = .ok result ↔ Option.Rel gives part result := by
  cases part with
  | none =>
    refine ⟨fun h ↦ ?_, fun h ↦ ?_⟩
    · obtain rfl := Except.ok.inj h
      exact .none
    · cases h
      rfl
  | some a =>
    rw [optional, map_eq_ok_iff]
    refine ⟨?_, fun hrel ↦ ?_⟩
    · rintro ⟨b, hb, rfl⟩
      exact .some ((h a b).1 hb)
    · cases hrel with
      | some hb => exact ⟨_, (h a _).2 hb, rfl⟩

theorem optional_checked_eq_ok_iff {g : Grammar} {part : Option String}
    {result : Option (Checked g)} :
    optional checked part = .ok result ↔ part = result.map Checked.text := by
  rw [optional_eq_ok_iff fun _ _ ↦ checked_eq_ok_iff]
  constructor
  · rintro (h | _)
    · exact congrArg some h.symm
    · rfl
  · rintro rfl
    cases result with
    | none => exact .none
    | some a => exact .some rfl

theorem optional_eq_error_iff {part : Option α} {e : DescriptionError} :
    optional convert part = .error e ↔ ∃ a, part = some a ∧ convert a = .error e := by
  cases part with
  | none => simp [optional]
  | some a => simp [optional, map_eq_error_iff]

theorem cause?_optional {γ : Type} {fault? : γ → Option DescriptionError} {items : α → List γ}
    {part : Option α} (h : ∀ a, cause? (convert a) = (items a).findSome? fault?) :
    cause? (optional convert part) = (part.elim [] items).findSome? fault? := by
  cases part with
  | none => rfl
  | some a => exact (cause?_map _ _).trans (h a)

end optional

/-! ## Keys of which one is given -/

section keys

variable {β : Type}

/-- What comes of several keys, of which exactly one has to be given: what comes of that one, or
else a failure for the number of those that are. -/
def choose (miscount : Nat → DescriptionError) (keys : List (Option (Described β))) : Described β :=
  match keys.filterMap id with
  | [result] => result
  | results => .error (miscount results.length)

/-- Why keys of which exactly one has to be given give nothing: their number, or what is wrong with
the one that is given. -/
inductive ChoiceFails (miscount : Nat → DescriptionError) (count : Nat)
    (wrong : DescriptionError → Prop) : DescriptionError → Prop
  /-- There are none, or several of them. -/
  | count (h : count ≠ 1) : ChoiceFails miscount count wrong (miscount count)
  /-- There is something wrong with the one. -/
  | key {e : DescriptionError} (one : count = 1) (h : wrong e) : ChoiceFails miscount count wrong e

variable {miscount : Nat → DescriptionError} {keys : List (Option (Described β))} {count : Nat}
  {names : β → Prop} {wrong : DescriptionError → Prop}

theorem length_given {α : Type} (keys : List (Option α)) :
    (keys.filterMap id).length = (keys.map Option.isSome).count true := by
  rw [List.length_filterMap_eq_countP, List.count_eq_countP, List.countP_map]
  refine List.countP_congr fun key _ ↦ ?_
  cases key <;> exact Iff.rfl

theorem some_mem_iff_eq_choose (one : (keys.map Option.isSome).count true = 1)
    {result : Described β} : some result ∈ keys ↔ result = choose miscount keys := by
  obtain ⟨given, hgiven⟩ := List.length_eq_one_iff.1 ((length_given keys).trans one)
  have hmem : some result ∈ keys ↔ result ∈ keys.filterMap id := by simp
  rw [hmem, choose, hgiven, List.mem_singleton]

theorem choose_of_ne_one (h : (keys.map Option.isSome).count true ≠ 1) :
    choose miscount keys = .error (miscount ((keys.map Option.isSome).count true)) := by
  rw [← length_given] at h ⊢
  rw [choose]
  split
  · next hgiven => exact absurd (by rw [hgiven]; rfl) h
  · rfl

/-- **Keys of which exactly one has to be given.** -/
theorem choose_isExact (hcount : (keys.map Option.isSome).count true = count)
    (hnames : ∀ b, (∃ key ∈ keys, key = some (.ok b)) ↔ names b)
    (hwrong : ∀ e, (∃ key ∈ keys, key = some (.error e)) ↔ wrong e) :
    (choose miscount keys).IsExact (fun b ↦ count = 1 ∧ names b)
      (ChoiceFails miscount count wrong) := by
  subst hcount
  simp only [exists_eq_right] at hnames hwrong
  by_cases one : (keys.map Option.isSome).count true = 1
  · refine ⟨fun b ↦ ?_, fun e ↦ ?_⟩
    · rw [← hnames b, some_mem_iff_eq_choose one, eq_comm]
      exact (and_iff_right one).symm
    · rw [eq_comm, ← some_mem_iff_eq_choose one, hwrong e]
      refine ⟨.key one, fun he ↦ ?_⟩
      cases he with
      | count h => exact absurd one h
      | key _ h => exact h
  · rw [choose_of_ne_one one]
    refine ⟨fun b ↦ ?_, fun e ↦ ?_⟩
    · simp [one]
    · rw [Except.error.injEq]
      refine ⟨fun he ↦ he ▸ .count one, fun he ↦ ?_⟩
      cases he with
      | count => rfl
      | key h => exact absurd h one

/-- Nothing is wrong with keys exactly if one of them is given, and nothing is wrong with it. -/
theorem forall_not_choiceFails_iff :
    (∀ e, ¬ChoiceFails miscount count wrong e) ↔ count = 1 ∧ ∀ e, ¬wrong e := by
  constructor
  · intro h
    have one : count = 1 := Decidable.byContradiction fun hne ↦ h _ (.count hne)
    exact ⟨one, fun e he ↦ h e (.key one he)⟩
  · rintro ⟨one, h⟩ e he
    cases he with
    | count hne => exact hne one
    | key _ he => exact h e he

end keys

/-! ## Families -/

section families

variable {kind : SlotKind} {family : String} {α β : Type} {convert : String → α → Described β}
  {gives : α → β → Prop} {fails : String → α → DescriptionError → Prop}

/-- Why an entry of a family cannot be used: its key is no slot, or there is something wrong with
the device, which goes by the name of its slot. -/
inductive EntryFails (kind : SlotKind) (family : String)
    (fails : String → α → DescriptionError → Prop) (entry : String × α) : DescriptionError → Prop
  /-- The key is no slot. -/
  | slot {cause : SlotError} (hkey : (Slot.parse entry.1 : Except _ (Slot kind)) = .error cause) :
    EntryFails kind family fails entry (.slot family entry.1 cause)
  /-- There is something wrong with the device. -/
  | device {slot : Slot kind} {e : DescriptionError} (hkey : Slot.parse entry.1 = .ok slot)
    (hdevice : fails (slot.key family) entry.2 e) : EntryFails kind family fails entry e

theorem device_eq_ok_iff (h : ∀ label a b, convert label a = .ok b ↔ gives a b) {entry : String × α}
    {slot : Slot kind} {b : β} :
    device family convert entry = .ok (slot, b) ↔
      Slot.parse entry.1 = .ok slot ∧ gives entry.2 b := by
  simp only [device, bind_eq_ok_iff, mapError_eq_ok_iff, pure_eq_ok_iff, h, Prod.mk.injEq]
  constructor
  · rintro ⟨_, hkey, _, hb, rfl, rfl⟩
    exact ⟨hkey, hb⟩
  · exact fun ⟨hkey, hb⟩ ↦ ⟨slot, hkey, b, hb, rfl, rfl⟩

/-- **One entry of a family.** -/
theorem device_isExact
    (h : ∀ label a, (convert label a).IsExact (gives a) (fails label a)) (entry : String × α) :
    (device family convert entry : Described (Slot kind × β)).IsExact
      (fun r ↦ Slot.parse entry.1 = .ok r.1 ∧ gives entry.2 r.2)
      (EntryFails kind family fails entry) where
  ok_iff _ := device_eq_ok_iff fun label a ↦ (h label a).ok_iff
  error_iff e := by
    rw [device, bind_eq_error_iff, mapError_eq_error_iff]
    simp only [mapError_eq_ok_iff]
    constructor
    · rintro (⟨cause, hkey, rfl⟩ | ⟨slot, hkey, he⟩)
      · exact .slot hkey
      · rcases bind_eq_error_iff.1 he with he | ⟨b, -, he⟩
        · exact .device hkey (((h _ _).error_iff e).1 he)
        · cases he
    · rintro (⟨hkey⟩ | ⟨hkey, he⟩)
      · exact .inl ⟨_, hkey, rfl⟩
      · exact .inr ⟨_, hkey, bind_eq_error_iff.2 (.inl (((h _ _).error_iff e).2 he))⟩

theorem cause?_device_eq_none_iff
    (h : ∀ label a, (convert label a).IsExact (gives a) (fails label a)) {key : String} {a : α} :
    cause? (device family convert (key, a) : Described (Slot kind × β)) = none ↔
      kind.HasSlot key ∧ ∃ b, gives a b := by
  rw [(device_isExact h (key, a)).cause?_eq_none_iff, SlotKind.HasSlot]
  simp only [Prod.exists, exists_and_left, exists_and_right]

/-- The last key of a description that spells a slot, with what stands under it. -/
structure IsLast (entries : SortedMap String α) (slot : Slot kind) (key : String) (a : α) :
    Prop where
  /-- It stands there. -/
  entry : entries.get? key = some a
  /-- It spells the slot. -/
  spells : Slot.parse key = .ok slot
  /-- None after it does. -/
  last : ∀ key' a', entries.get? key' = some a' → key < key' → Slot.parse key' ≠ .ok slot

/-- The devices that are described, slot by slot. -/
structure Fills (gives : α → β → Prop) (entries : SortedMap String α) (devices : SlotMap kind β) :
    Prop where
  /-- Every key is a slot. -/
  slot : ∀ key a, entries.get? key = some a → kind.HasSlot key
  /-- Every entry gives a device. -/
  device : ∀ key a, entries.get? key = some a → ∃ b, gives a b
  /-- A slot holds what the last key that spells it gives. -/
  get?_eq_some_iff : ∀ slot b,
    devices.get? slot = some b ↔ ∃ key a, IsLast entries slot key a ∧ gives a b

theorem Fills.eq {entries : SortedMap String α} {devices devices' : SlotMap kind β}
    (h : Fills gives entries devices) (h' : Fills gives entries devices') : devices = devices' :=
  SortedMap.ext fun slot ↦ Option.ext fun b ↦
    (h.get?_eq_some_iff slot b).trans (h'.get?_eq_some_iff slot b).symm

/-- An entry puts a device into a slot if its key spells the slot and it gives the device. -/
theorem filter_device_eq_some_iff (h : ∀ label a b, convert label a = .ok b ↔ gives a b)
    {entry : String × α} {slot : Slot kind} {b : β} :
    (device family convert entry).toOption.filter (fun r ↦ decide (r.1 = slot)) = some (slot, b) ↔
      Slot.parse entry.1 = .ok slot ∧ gives entry.2 b := by
  rw [Option.filter_eq_some_iff, toOption_eq_some_iff, device_eq_ok_iff h]
  simp

theorem filter_device_eq_none_iff (h : ∀ label a b, convert label a = .ok b ↔ gives a b)
    {entry : String × α} (hentry : ∃ r : Slot kind × β, device family convert entry = .ok r)
    {slot : Slot kind} :
    ((device family convert entry).toOption.filter fun r : Slot kind × β ↦
      decide (r.1 = slot)) = none ↔ Slot.parse entry.1 ≠ .ok slot := by
  obtain ⟨⟨slot', b⟩, hdevice⟩ := hentry
  rw [hdevice, Except.toOption, Option.filter_some, ((device_eq_ok_iff h).1 hdevice).1]
  by_cases hslot : slot' = slot <;> simp [hslot]

/-- Entries that are converted one by one fill the slots. -/
theorem fills_ofList (h : ∀ label a b, convert label a = .ok b ↔ gives a b)
    {entries : SortedMap String α} {devices : List (Slot kind × β)}
    (hdevices : entries.toList.mapM (device family convert) = .ok devices) :
    Fills gives entries (.ofList devices) := by
  have heach (key : String) (a : α) (hentry : entries.get? key = some a) :
      ∃ r : Slot kind × β, device family convert (key, a) = .ok r :=
    exists_mapM_eq_ok_iff.1 ⟨devices, hdevices⟩ _ (entries.mem_toList_iff.2 hentry)
  refine ⟨fun key a hentry ↦ ?_, fun key a hentry ↦ ?_, fun slot b ↦ ?_⟩
  · obtain ⟨⟨slot, b⟩, hdevice⟩ := heach key a hentry
    exact ⟨slot, ((device_eq_ok_iff h).1 hdevice).1⟩
  · obtain ⟨⟨slot, b⟩, hdevice⟩ := heach key a hentry
    exact ⟨b, ((device_eq_ok_iff h).1 hdevice).2⟩
  · have hfind : (devices.reverse.find? fun r ↦ decide (r.1 = slot)) =
        entries.toList.reverse.findSome? fun entry ↦
          (device family convert entry).toOption.filter fun r ↦ decide (r.1 = slot) := by
      refine find?_eq_findSome?_toOption ?_ _
      rw [List.map_reverse, mapM_eq_ok_iff.1 hdevices, List.map_reverse]
    -- read backwards, the greatest key that spells the slot decides
    rw [SortedMap.get?_ofList_eq_some_iff_find?, hfind,
      StrictOrder.findSome?_reverse_eq_some_iff entries.sorted]
    constructor
    · rintro ⟨⟨key, a⟩, hentry, hr, hlast⟩
      obtain ⟨hkey, hb⟩ := (filter_device_eq_some_iff h).1 hr
      refine ⟨key, a, ⟨entries.mem_toList_iff.1 hentry, hkey, fun key' a' hentry' hlt ↦ ?_⟩, hb⟩
      exact (filter_device_eq_none_iff h (heach key' a' hentry')).1
        (hlast _ (entries.mem_toList_iff.2 hentry') hlt)
    · rintro ⟨key, a, hkey, hb⟩
      refine ⟨(key, a), entries.mem_toList_iff.2 hkey.entry,
        (filter_device_eq_some_iff h).2 ⟨hkey.spells, hb⟩, ?_⟩
      rintro ⟨key', a'⟩ hentry' hlt
      have hget := entries.mem_toList_iff.1 hentry'
      exact (filter_device_eq_none_iff h (heach key' a' hget)).2 (hkey.last key' a' hget hlt)

/-- **A family of devices** comes out as the devices that are described. -/
theorem slots_eq_ok_iff (h : ∀ label a b, convert label a = .ok b ↔ gives a b)
    {entries : SortedMap String α} {devices : SlotMap kind β} :
    slots family convert entries = .ok devices ↔ Fills gives entries devices := by
  rw [slots, map_eq_ok_iff]
  constructor
  · rintro ⟨results, hresults, rfl⟩
    exact fills_ofList h hresults
  · intro hfills
    obtain ⟨results, hresults⟩ : ∃ results : List (Slot kind × β),
        entries.toList.mapM (device family convert) = .ok results := by
      refine exists_mapM_eq_ok_iff.2 fun (key, a) hentry ↦ ?_
      have hget := entries.mem_toList_iff.1 hentry
      obtain ⟨slot, hkey⟩ := hfills.slot key a hget
      obtain ⟨b, hb⟩ := hfills.device key a hget
      exact ⟨_, (device_eq_ok_iff h).2 ⟨hkey, hb⟩⟩
    exact ⟨results, hresults, (fills_ofList h hresults).eq hfills⟩

theorem cause?_slots {γ : Type} {fault? : γ → Option DescriptionError} {item : String × α → γ}
    {entries : SortedMap String α}
    (h : ∀ entry, cause? (device family convert entry : Described (Slot kind × β)) =
      fault? (item entry)) :
    cause? (slots family convert entries : Described (SlotMap kind β)) =
      (entries.toList.map item).findSome? fault? := by
  rw [slots, cause?_map, cause?_mapM, List.findSome?_map]
  exact congrArg (entries.toList.findSome? ·) (funext h)

end families

end Described

end GuestConfig
