import GuestConfig.Text.Natural
import GuestConfig.Text.Quoted
import GuestConfig.Text.Split

/-!
# Slots

Devices sit in numbered slots: `net0`, `scsi12`, `usb4`.  Slots are sparse, and every kind of
device has its own number of them.  In the API's flat configuration a slot is a key: a stem that
names the family, followed by the number.

## What is here

* `SlotKind` — the kinds of slot, with their names and their last numbers.
* `Slot kind` — a slot of that kind; its number is in range by construction.
* `Slot.ofNat`, `Slot.ofInt`, `Slot.parse` — a slot from a number and from a text, and `SlotError`;
  `Slot.parse_digits_eq_ok_iff` says what digits are read as.
* `Slot.key`, `Slot.ofKey?` — the key of a slot under a stem, and the slot of a key;
  `Slot.ofKey?_eq_some_iff` says which keys a slot has, and `Slot.ofKey?_key` that the key of a slot
  is recognised as that slot.
* `Slot.all` — all slots of a kind in ascending order.
-/

set_option autoImplicit false

namespace GuestConfig

open Text (quoted natural natural? trim digits isDigits)

/-! ## Kinds -/

/-- The kinds of slot. -/
inductive SlotKind where
  /-- A position on the IDE bus. -/
  | ide
  /-- A position on the SATA bus. -/
  | sata
  /-- A position on the SCSI bus. -/
  | scsi
  /-- A position on the VirtIO bus. -/
  | virtio
  /-- A network interface; its addressing has the same number. -/
  | network
  /-- A PCI device of the host. -/
  | pci
  /-- A USB port. -/
  | usb
  /-- A serial port. -/
  | serial
  deriving DecidableEq, Repr

namespace SlotKind

/-- The name of a kind in messages. -/
def label : SlotKind → String
  | ide => "ide"
  | sata => "sata"
  | scsi => "scsi"
  | virtio => "virtio"
  | network => "network"
  | pci => "pci"
  | usb => "usb"
  | serial => "serial"

/-- The last slot of a kind. -/
def last : SlotKind → Nat
  | ide => 3
  | sata => 5
  | scsi => 30
  | virtio => 15
  | network => 31
  | pci => 15
  | usb => 4
  | serial => 3

end SlotKind

/-! ## Slots -/

/-- A slot of a kind. -/
structure Slot (kind : SlotKind) where
  /-- The number of the slot. -/
  index : Nat
  /-- There is such a slot. -/
  le_last : index ≤ kind.last
  deriving DecidableEq, Repr

/-- Why something is no slot. -/
inductive SlotError where
  /-- The kind has no slot with that number. -/
  | outOfRange (kind : SlotKind) (value : Nat)
  /-- The text is no number of 64 bits. -/
  | unparsable (kind : SlotKind) (text : String)
  deriving DecidableEq, Repr

/-- The cause in words. -/
def SlotError.message : SlotError → String
  | .outOfRange kind value =>
    kind.label ++ " slot " ++ natural value ++ " outside range of 0-" ++ natural kind.last
  | .unparsable kind text => "failed to parse " ++ kind.label ++ " slot " ++ quoted text

namespace Slot

variable {kind : SlotKind}

theorem ext {a b : Slot kind} (h : a.index = b.index) : a = b := by
  cases a
  cases b
  simpa using h

/-- The slot with a given number. -/
def ofNat (n : Nat) : Except SlotError (Slot kind) :=
  if h : n ≤ kind.last then .ok ⟨n, h⟩ else .error (.outOfRange kind n)

@[simp] theorem ofNat_index (slot : Slot kind) : ofNat slot.index = .ok slot := by
  simp [ofNat, slot.le_last]

theorem ofNat_eq_ok_iff {n : Nat} {slot : Slot kind} : ofNat n = .ok slot ↔ n = slot.index := by
  constructor
  · intro h
    unfold ofNat at h
    split at h
    · exact congrArg index (Except.ok.inj h)
    · cases h
  · rintro rfl
    exact ofNat_index slot

/-- The slot with a given number, which is no slot if it is negative. -/
def ofInt (n : Int) : Except SlotError (Slot kind) :=
  if n < 0 then .error (.unparsable kind (Text.integer n)) else ofNat n.toNat

/-- Reads a slot.  A number must fit 64 bits to count as one. -/
def parse (s : String) : Except SlotError (Slot kind) :=
  match (Text.word? (trim s.toList) : Option UInt64) with
  | some n => ofNat n.toNat
  | none => .error (.unparsable kind s)

theorem index_lt (slot : Slot kind) : slot.index < UInt64.size := by
  have hlast : kind.last < UInt64.size := by cases kind <;> decide
  exact Nat.lt_of_le_of_lt slot.le_last hlast

/-- Digits are read as the slot with their number, however many of them there are. -/
theorem parse_digits_eq_ok_iff {ds : List Char} {slot : Slot kind} (hne : ds ≠ [])
    (hdigits : isDigits ds = true) :
    parse (String.ofList ds) = .ok slot ↔ Text.digitsValue ds = slot.index := by
  have htrim : trim ds = ds := Text.trim_eq_self_of_all fun c hc ↦
    Text.isBlank_eq_false_of_isDigit (List.all_eq_true.1 hdigits c hc)
  have hnumber : natural? ds = some (Text.digitsValue ds) :=
    Text.natural?_eq_some_iff.2 (by simp [Text.unsigned_eq_self hdigits, hne, hdigits])
  rw [parse, String.toList_ofList, htrim, Text.word?, hnumber, Option.bind_some]
  cases hword : (Word.ofNat? (Text.digitsValue ds) : Option UInt64) with
  | some n =>
    rw [← Word.ofNat?_eq_some_iff.1 hword]
    exact ofNat_eq_ok_iff
  | none =>
    -- a number that does not fit 64 bits is larger than that of any slot
    have hne : Text.digitsValue ds ≠ slot.index := by
      intro hvalue
      have hfits := (UInt64.toNat_ofNat_of_lt' slot.index_lt).trans hvalue.symm
      rw [Word.ofNat?_eq_some_iff.2 hfits] at hword
      cases hword
    simp [hne]

/-- A slot in decimal digits. -/
def text (slot : Slot kind) : String :=
  natural slot.index

/-- All slots of a kind, in ascending order. -/
def all (kind : SlotKind) : List (Slot kind) :=
  (List.finRange (kind.last + 1)).map fun i ↦ ⟨i.val, Nat.le_of_lt_succ i.isLt⟩

theorem mem_all (slot : Slot kind) : slot ∈ all kind :=
  List.mem_map.2 ⟨⟨slot.index, Nat.lt_succ_of_le slot.le_last⟩, List.mem_finRange _, rfl⟩

/-! ## Keys -/

/-- The key of a slot: the stem and the number. -/
def key (stem : String) (slot : Slot kind) : String :=
  stem ++ slot.text

/-- The slot that a key stands for: nothing but digits after the stem, which are then read like any
other text. -/
def ofKey? (stem key : String) : Option (Slot kind) :=
  match Text.dropStart stem.toList key.toList with
  | none => none
  | some ds =>
    if ds ≠ [] ∧ isDigits ds = true then (parse (String.ofList ds)).toOption else none

/-- **The keys of a slot**: the stem and digits that count up to its number, with any zeros in
front. -/
theorem ofKey?_eq_some_iff {stem key : String} {slot : Slot kind} :
    ofKey? stem key = some slot ↔
      ∃ ds, key.toList = stem.toList ++ ds ∧ ds ≠ [] ∧ isDigits ds = true ∧
        Text.digitsValue ds = slot.index := by
  have hkept (s : String) : (parse s).toOption = some slot ↔ parse s = .ok slot := by
    cases (parse s : Except SlotError (Slot kind)) <;> simp [Except.toOption]
  unfold ofKey?
  constructor
  · intro h
    split at h
    · cases h
    · next ds hds =>
      split at h
      · next hdigits =>
        refine ⟨ds, Text.dropStart_eq_some_iff.1 hds, hdigits.1, hdigits.2, ?_⟩
        exact (parse_digits_eq_ok_iff hdigits.1 hdigits.2).1 ((hkept _).1 h)
      · cases h
  · rintro ⟨ds, hkey, hne, hdigits, hvalue⟩
    rw [Text.dropStart_eq_some_iff.2 hkey]
    dsimp only
    rw [if_pos ⟨hne, hdigits⟩]
    exact (hkept _).2 ((parse_digits_eq_ok_iff hne hdigits).2 hvalue)

/-- **The key of a slot is recognised as that slot.** -/
@[simp] theorem ofKey?_key (stem : String) (slot : Slot kind) :
    ofKey? stem (slot.key stem) = some slot :=
  ofKey?_eq_some_iff.2 ⟨digits slot.index, by simp [key, text], by simp, by simp, by simp⟩

/-! ## The order of slots -/

instance : LT (Slot kind) where
  lt a b := a.index < b.index

instance : DecidableLT (Slot kind) := fun a b ↦ Nat.decLt a.index b.index

theorem lt_iff {a b : Slot kind} : a < b ↔ a.index < b.index := Iff.rfl

end Slot

end GuestConfig
