import GuestConfig.Proofs.Settling.CloudInit
import GuestConfig.Proofs.Settling.Cpu
import GuestConfig.Proofs.Settling.Guest

/-!
# Numbers and their digits

Some interfaces of the product give whole numbers as such and others give their digits in a text.
It makes no difference.  Where a text is wanted, a number is written out; where a number is wanted,
the digits are read; and the limits of a number are the same either way.  The capacity of the memory
is the only number that is read in two ways, since its text may also be a list of options.

A truth value is the exception.  As a number, everything but zero is true, while of the digits only
`0` and `1` say anything.

## What is here

* `Value.inDigits`, `Wire.inDigits` — a number, and the numbers under some keys, as texts.
* `Text.word?_integer` — the digits of a number are read within the limits of a word.
* `Wire.field?_inDigits`, `Wire.slots_inDigits` — a reader and a family cannot tell the two apart.
* `Memory.capacityOfWire_inDigits_iff` — neither can the capacity.
* `Configuration.ofWire_inDigits_eq_ok_iff` — **numbers and their digits are read alike.**
-/

set_option autoImplicit false

namespace GuestConfig

open OptionList (isCleanValue_of_isWord isClean_positional leading?_positional
  parse_text_of_isClean)
open Text (digits integer isWord natural)

/-! ## Digits -/

namespace Text

theorem isWord_integer (n : Int) : isWord (integer n) = true := by
  have hsign : isWord (if n < 0 then "-" else "") = true := by
    split <;> decide
  rw [integer, isWord_append, hsign, isWord_natural]
  rfl

/-- **The digits of a number are read within the limits of a word.** -/
theorem word?_integer {α : Type} [Word α] (n : Int) :
    (word? (integer n).toList : Option α) = if n < 0 then none else Word.ofNat? n.toNat := by
  by_cases hn : n < 0
  · have hsign : natural? ('-' :: digits n.natAbs) = none := by
      simp [natural?, unsigned, isDigits]
    simp [integer, hn, word?, hsign]
  · have habs : n.natAbs = n.toNat := by omega
    simp [integer, hn, word?, habs]

/-- A number that is read from the digits of another one is that number. -/
theorem word?_integer_eq_some_iff {α : Type} [Word α] {n : Int} {a : α} :
    word? (integer n).toList = some a ↔ n = Word.toNat a := by
  rw [word?_integer]
  by_cases hn : n < 0
  · rw [if_pos hn]
    exact iff_of_false (Option.some_ne_none _).symm (by omega)
  · rw [if_neg hn, Word.ofNat?_eq_some_iff]
    omega

end Text

/-! ## Values -/

/-- A value with a text of its digits in the place of a number. -/
def Value.inDigits : Value → Value
  | .int n => .text (integer n)
  | v => v

namespace Wire

/-- A stored object with texts of their digits in the place of the numbers under some keys. -/
def inDigits (w : Wire) (keys : String → Bool) : Wire :=
  w.mapValues fun key v ↦ if keys key then v.inDigits else v

theorem readText_inDigits (v : Value) : readText v.inDigits = readText v := by
  cases v <;> rfl

theorem readNat_inDigits (v : Value) : readNat v.inDigits = readNat v := by
  cases v with
  | int n =>
    simp only [Value.inDigits, readNat, Text.trim_of_isWord (Text.isWord_integer n),
      Text.word?_integer]
  | _ => rfl

theorem readNat_int_eq_ok_iff {n : Int} {m : UInt64} :
    readNat (.int n) = .ok m ↔ n = Word.toNat m := by
  rw [← Text.word?_integer_eq_some_iff, Text.word?_integer, readNat]
  cases (if n < 0 then none else Word.ofNat? n.toNat : Option UInt64) <;> simp

theorem readWord_inDigits {α : Type} [Word α] (key : String) (v : Value) :
    (readWord key v.inDigits : Except WireError α) = readWord key v := by
  rw [readWord, readWord, readNat_inDigits]

theorem readFlag_inDigits (key : String) {v : Value} (h : ∀ n, v = .int n → n = 0 ∨ n = 1) :
    readFlag key v.inDigits = readFlag key v := by
  have hflag (b : Bool) : readFlag key (.text (flagText b)) = readFlag key (.ofFlag b) := by
    rw [readFlag_ofFlag, readFlag, parseFlag?_flagText]
  cases v with
  | int n =>
    rcases h n rfl with rfl | rfl
    · exact hflag false
    · exact hflag true
  | _ => rfl

section readers

variable {α : Type} {w : Wire} {keys : String → Bool} {key : String}

/-- **A reader that takes digits like numbers cannot tell the objects apart.** -/
theorem field?_inDigits {read : Value → Except WireError α}
    (h : ∀ v, keys key = true → w.get? key = some v → read v.inDigits = read v) :
    (w.inDigits keys).field? key read = w.field? key read := by
  rw [field?, field?, inDigits, SortedMap.get?_mapValues]
  cases hv : w.get? key with
  | none => rfl
  | some v =>
    rw [Option.map_some]
    by_cases hkey : keys key = true
    · have hread := h v hkey hv
      rw [if_pos hkey]
      cases v with
      | int n =>
        dsimp only [Value.inDigits] at hread ⊢
        rw [hread]
      | _ => rfl
    · rw [if_neg hkey]

theorem text?_inDigits : (w.inDigits keys).text? key = w.text? key :=
  field?_inDigits fun v _ _ ↦ readText_inDigits v

theorem decoded?_inDigits {decode : String → Except WireError α} :
    (w.inDigits keys).decoded? key decode = w.decoded? key decode :=
  field?_inDigits fun v _ _ ↦ by rw [readText_inDigits]

theorem word?_inDigits [Word α] :
    ((w.inDigits keys).word? key : Except WireError (Option α)) = w.word? key :=
  field?_inDigits fun v _ _ ↦ readWord_inDigits key v

/-- A truth value that is given by a number is read alike if the number is zero or one. -/
theorem flag?_inDigits (h : keys key = true → ∀ n, w.get? key = some (.int n) → n = 0 ∨ n = 1) :
    (w.inDigits keys).flag? key = w.flag? key :=
  field?_inDigits fun _ hkey hv ↦ readFlag_inDigits key fun n hn ↦ h hkey n (hn ▸ hv)

theorem device_inDigits {kind : SlotKind} (decode : String → Except WireError α)
    (slot : Slot kind) (v : Value) :
    device decode (slot, key, v.inDigits) = device decode (slot, key, v) := by
  cases v <;> rfl

/-- **A family cannot tell the objects apart.** -/
theorem slots_inDigits {kind : SlotKind} {stem : String} {decode : String → Except WireError α} :
    (w.inDigits keys).slots kind stem decode = w.slots kind stem decode :=
  slots_mapValues fun slot _ v _ ↦ by
    split
    · exact device_inDigits decode slot v
    · rfl

end readers

end Wire

/-! ## The capacity of the memory -/

/-- A list of options that is a number in digits has the number at its front. -/
theorem OptionList.leading?_parse_integer (n : Int) :
    (parse (integer n)).leading? = some (integer n) := by
  have hword := Text.isWord_integer n
  have hne : integer n ≠ "" := fun h ↦ by simp [integer, ← String.toList_inj] at h
  have htext : (mk (positional (integer n))).text = integer n := by
    simp [text, positional, Entry.text]
  have hparse := parse_text_of_isClean (isClean_positional (isCleanValue_of_isWord hword)
    (Text.equals_not_mem_of_isWord hword) hne)
  rw [htext] at hparse
  rw [hparse]
  rfl

namespace Memory

theorem decodeCapacity_integer_eq_ok_iff {n : Int} {capacity : UInt32} :
    decodeCapacity (integer n) = .ok capacity ↔ n = Word.toNat capacity := by
  rw [← Text.word?_integer_eq_some_iff, decodeCapacity, OptionList.leading?_parse_integer,
    Option.some_or]
  cases hword : (Text.word? (integer n).toList : Option UInt32) <;> simp [hword]

theorem readWord_int_eq_ok_iff {key : String} {n : Int} {capacity : UInt32} :
    Wire.readWord key (.int n) = .ok capacity ↔ n = Word.toNat capacity := by
  constructor
  · intro h
    obtain ⟨m, hm, hword⟩ := bind_eq_ok_iff.1 h
    split at hword
    · next found hfound =>
      obtain rfl := Except.ok.inj hword
      rw [Wire.readNat_int_eq_ok_iff.1 hm, Word.ofNat?_eq_some_iff.1 hfound]
      rfl
    · cases hword
  · rintro rfl
    exact Wire.readWord_ofWord (by decide) key capacity

/-- **The capacity cannot tell the objects apart.**  What stands in the way of reading it may be
reported differently. -/
theorem capacityOfWire_inDigits_iff {w : Wire} {keys : String → Bool} {capacity : Option UInt32} :
    capacityOfWire (w.inDigits keys) = .ok capacity ↔ capacityOfWire w = .ok capacity := by
  have hget : (w.inDigits keys).get? capacityKey =
      (w.get? capacityKey).map fun v ↦ if keys capacityKey then v.inDigits else v :=
    SortedMap.get?_mapValues _ _ _
  have hsame (h : (w.inDigits keys).get? capacityKey = w.get? capacityKey) :
      capacityOfWire (w.inDigits keys) = .ok capacity ↔ capacityOfWire w = .ok capacity := by
    rw [capacityOfWire_congr h]
  cases hv : w.get? capacityKey with
  | none => exact hsame (by rw [hget, hv, Option.map_none])
  | some v =>
    rw [hv, Option.map_some] at hget
    by_cases hkey : keys capacityKey = true
    · rw [if_pos hkey] at hget
      cases v with
      | int n =>
        have hleft : capacityOfWire (w.inDigits keys) =
            WireError.within capacityKey ((decodeCapacity (integer n)).map some) := by
          rw [capacityOfWire, hget]
          rfl
        have hright : capacityOfWire w =
            WireError.within capacityKey ((Wire.readWord capacityKey (.int n)).map some) := by
          rw [capacityOfWire, hv]
          dsimp only
          rw [Wire.word?, Wire.field?, hv]
        rw [hleft, hright, within_eq_ok_iff, within_eq_ok_iff, map_eq_ok_iff, map_eq_ok_iff]
        exact exists_congr fun _ ↦
          and_congr_left' (decodeCapacity_integer_eq_ok_iff.trans readWord_int_eq_ok_iff.symm)
      | _ => exact hsame (hget.trans hv.symm)
    · rw [if_neg hkey] at hget
      exact hsame (hget.trans hv.symm)

theorem ofWire_inDigits_iff {w : Wire} {keys : String → Bool} {memory : Option Memory} :
    ofWire (w.inDigits keys) = .ok memory ↔ ofWire w = .ok memory := by
  rw [ofWire_eq_ok_iff, ofWire_eq_ok_iff, capacityOfWire_inDigits_iff, Wire.word?_inDigits,
    Wire.word?_inDigits]

end Memory

/-! ## Configurations -/

section settings

variable {w : Wire} {keys : String → Bool}

theorem Cpu.ofWire_inDigits (hnuma : (w.inDigits keys).flag? numaKey = w.flag? numaKey) :
    ofWire (w.inDigits keys) = ofWire w := by
  simp only [ofWire, Wire.decoded?_inDigits, Wire.text?_inDigits, Wire.word?_inDigits, hnuma]

theorem CloudInit.ofWire_inDigits
    (hupgrade : (w.inDigits keys).flag? upgradeKey = w.flag? upgradeKey) :
    ofWire (w.inDigits keys) = ofWire w := by
  simp only [ofWire, dnsOfWire, Wire.decoded?_inDigits, Wire.text?_inDigits, Wire.slots_inDigits,
    hupgrade]

theorem Disks.ofWire_inDigits : ofWire (w.inDigits keys) = ofWire w := by
  simp only [ofWire, Wire.slots_inDigits]

end settings

namespace Configuration

/-- The keys of truth values. -/
def flagKeys : List String :=
  [CloudInit.upgradeKey, Cpu.numaKey, onBootKey, protectionKey]

/-- **Numbers and their digits are read alike**, if the numbers under the keys of truth values are
zero or one. -/
theorem ofWire_inDigits_eq_ok_iff {w : Wire} {keys : String → Bool}
    (hflags : ∀ key ∈ flagKeys, keys key = true →
      ∀ n, w.get? key = some (.int n) → n = 0 ∨ n = 1) (c : Configuration) :
    ofWire (w.inDigits keys) = .ok c ↔ ofWire w = .ok c := by
  have hflag {key : String} (h : key ∈ flagKeys) : (w.inDigits keys).flag? key = w.flag? key :=
    Wire.flag?_inDigits (hflags key h)
  have hcpu := Cpu.ofWire_inDigits (hflag (by decide : Cpu.numaKey ∈ flagKeys))
  have hcloudInit := CloudInit.ofWire_inDigits (hflag (by decide : CloudInit.upgradeKey ∈ flagKeys))
  have honBoot := hflag (by decide : onBootKey ∈ flagKeys)
  have hisProtected := hflag (by decide : protectionKey ∈ flagKeys)
  -- everything but the memory is the same reading
  simp only [ofWire, Agent.ofWire, NetworkInterface.ofWire, PciDevice.ofWire, SerialPort.ofWire,
    Tags.ofWire, Tpm.ofWire, UsbDevice.ofWire, Disks.ofWire_inDigits, hcpu, hcloudInit, honBoot,
    hisProtected, Wire.decoded?_inDigits, Wire.text?_inDigits, Wire.slots_inDigits, bind_eq_ok_iff,
    Memory.ofWire_inDigits_iff]

/-- A guest whose numbers are numbers. -/
def numberedGuest : Wire :=
  .ofList [("balloon", .int 512), ("cores", .int 4), ("description", .int 7),
    ("memory", .int 2048), ("onboot", .int 1)]

/-- A guest whose numbers are given by their digits. -/
theorem ofWire_inDigits_of_numbered :
    ∃ c : Configuration,
      ofWire numberedGuest = .ok c ∧
      (∀ key ∈ flagKeys, true = true → ∀ n, numberedGuest.get? key = some (.int n) →
        n = 0 ∨ n = 1) ∧
      c.memory = some { capacity := some 2048, minimum := some 512 } ∧ c.onBoot = some true ∧
      (numberedGuest.inDigits fun _ ↦ true).get? Memory.capacityKey = some (.text "2048") ∧
      ofWire (numberedGuest.inDigits fun _ ↦ true) = .ok c := by
  have hflags : ∀ key ∈ flagKeys, true = true → ∀ n, numberedGuest.get? key = some (.int n) →
      n = 0 ∨ n = 1 := by
    intro key hkey _ n hn
    simp only [flagKeys, List.mem_cons, List.not_mem_nil, or_false] at hkey
    rw [numberedGuest, SortedMap.get?_ofList] at hn
    rcases hkey with rfl | rfl | rfl | rfl
    · cases hn
    · cases hn
    · cases hn
      exact .inr rfl
    · cases hn
  have h : ((ofWire numberedGuest).toOption.bind fun c ↦ some (c.memory, c.onBoot)) =
      some (some { capacity := some 2048, minimum := some 512 }, some true) := by decide +kernel
  obtain ⟨c, hc, h⟩ := exists_of_toOption_bind h
  obtain ⟨hmemory, honBoot⟩ := Prod.mk.inj (Option.some.inj h)
  exact ⟨c, hc, hflags, hmemory, honBoot, rfl, (ofWire_inDigits_eq_ok_iff hflags c).2 hc⟩

end Configuration

end GuestConfig
