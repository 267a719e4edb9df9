import GuestConfig.Proofs.Frame

/-!
# The keys of slots

A stored object is flat, and a device is found in it by the spelling of its key alone.  Keys are any
texts, some of them begin like others (`serial0` and `searchdomain`, `scsi0` and `scsihw`), and one
that is no device at all ends in a digit like those of the devices, `tpmstate0`.

What keeps the keys apart is that no stem has a digit in it.  So the stem of a key can be read off
the key, up to its first digit, and a key that is a slot of one family is neither a slot of another
one nor a key with a meaning of its own.  Behind the stem there is nothing to decide but a number:
it may have as many digits as it likes, since a number that does not fit 64 bits is larger than that
of any slot.

## What is here

* `Setting.slotFamilies`, `Setting.scalarKeys` — the families, and the keys that are read as they
  are; `Configuration.ofWire_congr_of_keys` says that no other key is read.
* `Setting.IsSlotKey` and `Setting.keyName_of_isSlotKey` — the stem of a key that is recognised.
* `Slot.ofKey?_eq_some_iff_digits` — the keys that are recognised.
* `Slot.ofKey?_isExact` — **slots are recognised by their keys exactly**, and no two of them have a
  key in common.
-/

set_option autoImplicit false

namespace GuestConfig

open Text (digitsValue isDigits)

namespace Setting

/-! ## The keys of an object -/

/-- The families of slots, with the stems of their keys. -/
def slotFamilies : List (SlotKind × String) :=
  all.flatMap families

/-- The keys that are read as they are. -/
def scalarKeys : List String :=
  all.flatMap singleKeys

/-- A key is recognised as a slot of a family. -/
def IsSlotKey (f : SlotKind × String) (key : String) : Prop :=
  (Slot.ofKey? f.2 key : Option (Slot f.1)).isSome = true

instance (f : SlotKind × String) (key : String) : Decidable (IsSlotKey f key) :=
  inferInstanceAs (Decidable (_ = _))

/-- The keys that settings are read from. -/
theorem mem_scalarKeys_or_of_reads {s : Setting} {key : String} (h : s.Reads key) :
    key ∈ scalarKeys ∨ ∃ f ∈ slotFamilies, IsSlotKey f key := by
  rcases h with hkey | ⟨f, hf, hslot⟩
  · exact .inl (List.mem_flatMap.2 ⟨s, s.mem_all, hkey⟩)
  · exact .inr ⟨f, List.mem_flatMap.2 ⟨s, s.mem_all, hf⟩, hslot⟩

/-! ## Stems -/

/-- **The stem of a key can be read off the key**, because no stem has a digit in it. -/
theorem keyName_of_isSlotKey {f : SlotKind × String} {key : String} (hf : f ∈ slotFamilies)
    (h : IsSlotKey f key) : keyName key = f.2 := by
  have hstems : ∀ f ∈ slotFamilies, f.2.toList.all (!·.isDigit) = true := by decide +kernel
  obtain ⟨slot, hslot⟩ := Option.isSome_iff_exists.1 h
  exact keyName_of_ofKey? (hstems f hf) hslot

/-- No key is recognised by two families. -/
theorem not_isSlotKey_of_ne {f g : SlotKind × String} {key : String} (hf : f ∈ slotFamilies)
    (hg : g ∈ slotFamilies) (hne : f ≠ g) (h : IsSlotKey f key) : ¬IsSlotKey g key := by
  have hstems : ∀ f ∈ slotFamilies, ∀ g ∈ slotFamilies, f.2 = g.2 → f = g := by decide +kernel
  refine fun h' ↦ hne (hstems f hf g hg ?_)
  rw [← keyName_of_isSlotKey hf h, keyName_of_isSlotKey hg h']

/-- No key that is read as it is is recognised by a family. -/
theorem not_isSlotKey_of_mem_scalarKeys {f : SlotKind × String} {key : String}
    (hkey : key ∈ scalarKeys) (hf : f ∈ slotFamilies) : ¬IsSlotKey f key := by
  have hstems : ∀ key ∈ scalarKeys, ∀ f ∈ slotFamilies, keyName key ≠ f.2 := by decide +kernel
  exact fun h ↦ hstems key hkey f hf (keyName_of_isSlotKey hf h)

end Setting

/-! ## What is read of an object -/

/-- **A configuration is decoded from the keys of slots and the keys that are read as they are.** -/
theorem Configuration.ofWire_congr_of_keys {w w' : Wire}
    (h : ∀ key, (key ∈ Setting.scalarKeys ∨ ∃ f ∈ Setting.slotFamilies, Setting.IsSlotKey f key) →
      w'.get? key = w.get? key) : ofWire w' = ofWire w :=
  ofWire_congr fun _ ↦ Setting.readsAlike_of_reads fun key hkey ↦
    h key (Setting.mem_scalarKeys_or_of_reads hkey)

namespace Slot

open Setting (IsSlotKey scalarKeys slotFamilies)

/-! ## Numbers -/

/-- **The keys of a slot**: the stem, and any digits that count up to its number. -/
theorem ofKey?_eq_some_iff_digits {kind : SlotKind} {stem key : String} {slot : Slot kind} :
    ofKey? stem key = some slot ↔
      ∃ ds, key.toList = stem.toList ++ ds ∧ ds ≠ [] ∧ (∀ c ∈ ds, c.isDigit = true) ∧
        digitsValue ds = slot.index ∧ digitsValue ds ≤ kind.last := by
  rw [ofKey?_eq_some_iff]
  refine exists_congr fun ds ↦ and_congr_right' (and_congr_right' (and_congr ?_ ?_))
  · exact List.all_eq_true
  · exact ⟨fun hvalue ↦ ⟨hvalue, hvalue ▸ slot.le_last⟩, And.left⟩

/-! ## Recognition -/

/-- **Slots are recognised by their keys exactly.**  There are nine families.  A key is a slot of
one of them if it is the stem and then digits that count up to a number of the family, and the key
of a slot is such a key.  No key is a slot of two families, and none of the keys that are read as
they are is a slot of any; and no other keys are read. -/
theorem ofKey?_isExact :
    slotFamilies.map (fun f ↦ (f.2, f.1.last)) =
        [("ipconfig", 31), ("ide", 3), ("sata", 5), ("scsi", 30), ("virtio", 15), ("net", 31),
          ("hostpci", 15), ("serial", 3), ("usb", 4)] ∧
      (∀ f ∈ slotFamilies, ∀ slot : Slot f.1,
        (∀ key, ofKey? f.2 key = some slot ↔
          ∃ ds, key.toList = f.2.toList ++ ds ∧ ds ≠ [] ∧ (∀ c ∈ ds, c.isDigit = true) ∧
            digitsValue ds = slot.index ∧ digitsValue ds ≤ f.1.last) ∧
          ofKey? f.2 (slot.key f.2) = some slot) ∧
      (∀ key, ∀ f ∈ slotFamilies, ∀ g ∈ slotFamilies, f ≠ g → IsSlotKey f key →
        ¬IsSlotKey g key) ∧
      ("tpmstate0" ∈ scalarKeys ∧ ∀ key ∈ scalarKeys, ∀ f ∈ slotFamilies, ¬IsSlotKey f key) ∧
      ∀ w w' : Wire,
        (∀ key, (key ∈ scalarKeys ∨ ∃ f ∈ slotFamilies, IsSlotKey f key) →
          w'.get? key = w.get? key) →
        Configuration.ofWire w' = Configuration.ofWire w := by
  refine ⟨by decide, fun f _ slot ↦ ⟨fun key ↦ ofKey?_eq_some_iff_digits, ofKey?_key f.2 slot⟩,
    fun key f hf g hg hne ↦ Setting.not_isSlotKey_of_ne hf hg hne, ⟨by decide, ?_⟩,
    fun w w' ↦ Configuration.ofWire_congr_of_keys⟩
  exact fun key hkey f hf ↦ Setting.not_isSlotKey_of_mem_scalarKeys hkey hf

/-- Zeros in front do not matter, not even if there are more of them than 64 bits have digits;
`serial0` is no drive, and `tpmstate0` is no slot; and a stem without a number is not read. -/
theorem ofKey?_isExact_zeros :
    ofKey? "net" "net000000000000000000000000031" = some (⟨31, by decide⟩ : Slot .network) ∧
      ¬IsSlotKey (.scsi, "scsi") "serial0" ∧ ¬IsSlotKey (.usb, "usb") "tpmstate0" ∧
      Configuration.ofWire (SortedMap.empty.insert "scsi" .null) =
        Configuration.ofWire .empty :=
  have hfamily := ofKey?_isExact.2.1 (.network, "net") (by decide) ⟨31, by decide⟩
  have hdigits : isDigits "000000000000000000000000031".toList = true := by decide +kernel
  ⟨(hfamily.1 _).2 ⟨"000000000000000000000000031".toList, by decide +kernel, by decide,
      List.all_eq_true.1 hdigits, by decide +kernel, by decide +kernel⟩,
    ofKey?_isExact.2.2.1 "serial0" (.serial, "serial") (by decide) (.scsi, "scsi") (by decide)
      (by decide) (by decide +kernel),
    ofKey?_isExact.2.2.2.1.2 "tpmstate0" ofKey?_isExact.2.2.2.1.1 (.usb, "usb") (by decide),
    ofKey?_isExact.2.2.2.2 _ _ fun key hkey ↦ SortedMap.get?_insert_of_ne _ _ (by
      rintro rfl
      exact absurd hkey (by decide +kernel))⟩

end Slot

end GuestConfig
