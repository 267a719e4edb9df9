import GuestConfig.Text.Split

/-!
# Natural numbers in a text

Numbers are written in plain decimal digits and read a little more generously: one plus sign may
stand in front, and leading zeros do not matter.  Most settings hold a number of fixed width, so
reading comes in two steps, the number itself and its range.

## What is here

* `digits` and `natural` — the digits of a number, as characters and as a `String`; `integer` for
  a number with a sign.
* `natural?` — reads a number; `natural?_eq_some_iff` says which texts are numbers, and
  `natural?_digits` that a written number reads back.
* `Word` — the fixed-width types, with the laws that make them an initial segment of the numbers.
* `word?` and `Word.text` — the same two directions for a fixed width, with `word?_digits`.
-/

set_option autoImplicit false

namespace GuestConfig.Text

/-! ## Digits -/

/-- The decimal digits of a number, without leading zeros. -/
def digits (n : Nat) : List Char :=
  Nat.toDigits 10 n

/-- A number in decimal digits. -/
def natural (n : Nat) : String :=
  String.ofList (digits n)

/-- A whole number in decimal digits, after a minus sign if it is negative. -/
def integer (n : Int) : String :=
  (if n < 0 then "-" else "") ++ natural n.natAbs

@[simp] theorem toList_natural (n : Nat) : (natural n).toList = digits n :=
  String.toList_ofList

/-- The number that a list of decimal digits stands for. -/
def digitsValue (cs : List Char) : Nat :=
  Nat.ofDigitChars 10 cs 0

@[simp] theorem digitsValue_digits (n : Nat) : digitsValue (digits n) = n :=
  Nat.ofDigitChars_ten_toDigits

/-- Whether a text holds nothing but decimal digits. -/
def isDigits (cs : List Char) : Bool :=
  cs.all Char.isDigit

theorem isDigit_iff {c : Char} : c.isDigit = true ↔ 48 ≤ c.toNat ∧ c.toNat ≤ 57 := by
  simp [Char.isDigit, UInt32.le_iff_toNat_le]

theorem isDigit_of_mem_digits {n : Nat} {c : Char} (h : c ∈ digits n) : c.isDigit = true :=
  Nat.isDigit_of_mem_toDigits (by decide) (by decide) h

@[simp] theorem isDigits_digits (n : Nat) : isDigits (digits n) = true :=
  List.all_eq_true.2 fun _ h ↦ isDigit_of_mem_digits h

@[simp] theorem digits_ne_nil (n : Nat) : digits n ≠ [] :=
  Nat.toDigits_ne_nil

theorem isBlank_eq_false_of_isDigit {c : Char} (h : c.isDigit = true) : isBlank c = false := by
  have hc := isDigit_iff.1 h
  simp only [isBlank, Bool.or_eq_false_iff, Bool.and_eq_false_iff, decide_eq_false_iff_not,
    beq_eq_false_iff_ne]
  omega

/-! ## Reading a number -/

/-- A text without the plus sign it may start with. -/
def unsigned : List Char → List Char
  | '+' :: cs => cs
  | cs => cs

/-- Reads a number: at least one decimal digit, after at most one plus sign. -/
def natural? (cs : List Char) : Option Nat :=
  let ds := unsigned cs
  if ds ≠ [] ∧ isDigits ds then some (digitsValue ds) else none

/-- **The texts that are numbers.** -/
theorem natural?_eq_some_iff {cs : List Char} {n : Nat} :
    natural? cs = some n ↔
      unsigned cs ≠ [] ∧ isDigits (unsigned cs) = true ∧ digitsValue (unsigned cs) = n := by
  simp only [natural?]
  split
  · next h => simp [h.1, h.2]
  · next h =>
    simp only [reduceCtorEq, false_iff]
    exact fun ⟨h₁, h₂, _⟩ ↦ h ⟨h₁, h₂⟩

theorem unsigned_eq_self {cs : List Char} (h : isDigits cs = true) : unsigned cs = cs := by
  cases cs with
  | nil => rfl
  | cons c cs =>
    have : c ≠ '+' := by
      rintro rfl
      simp [isDigits] at h
    rw [unsigned.eq_2]
    rintro x hx
    exact this (List.cons.inj hx).1

/-- **A written number reads back.** -/
@[simp] theorem natural?_digits (n : Nat) : natural? (digits n) = some n :=
  natural?_eq_some_iff.2 (by simp [unsigned_eq_self (isDigits_digits n)])

end GuestConfig.Text

namespace GuestConfig

open Text (digits natural natural? natural?_digits)

/-! ## Numbers of fixed width -/

/-- A type of numbers of fixed width: the numbers below `limit`. -/
class Word (α : Type) where
  /-- The number of values. -/
  limit : Nat
  /-- The value as a number. -/
  toNat : α → Nat
  /-- The value that a number below `limit` stands for. -/
  ofNat : Nat → α
  /-- Every value is below the limit. -/
  toNat_lt (a : α) : toNat a < limit
  /-- A value is determined by its number. -/
  ofNat_toNat (a : α) : ofNat (toNat a) = a
  /-- A number below the limit is kept. -/
  toNat_ofNat {n : Nat} (h : n < limit) : toNat (ofNat n) = n

instance : Word UInt8 where
  limit := 2 ^ 8
  toNat := UInt8.toNat
  ofNat := UInt8.ofNat
  toNat_lt := UInt8.toNat_lt
  ofNat_toNat _ := UInt8.ofNat_toNat
  toNat_ofNat h := UInt8.toNat_ofNat_of_lt' h

instance : Word UInt16 where
  limit := 2 ^ 16
  toNat := UInt16.toNat
  ofNat := UInt16.ofNat
  toNat_lt := UInt16.toNat_lt
  ofNat_toNat _ := UInt16.ofNat_toNat
  toNat_ofNat h := UInt16.toNat_ofNat_of_lt' h

instance : Word UInt32 where
  limit := 2 ^ 32
  toNat := UInt32.toNat
  ofNat := UInt32.ofNat
  toNat_lt := UInt32.toNat_lt
  ofNat_toNat _ := UInt32.ofNat_toNat
  toNat_ofNat h := UInt32.toNat_ofNat_of_lt' h

instance : Word UInt64 where
  limit := 2 ^ 64
  toNat := UInt64.toNat
  ofNat := UInt64.ofNat
  toNat_lt := UInt64.toNat_lt
  ofNat_toNat _ := UInt64.ofNat_toNat
  toNat_ofNat h := UInt64.toNat_ofNat_of_lt' h

namespace Word

variable {α : Type} [Word α]

/-- A number as a word, if it is in range. -/
def ofNat? (n : Nat) : Option α :=
  if n < limit α then some (ofNat n) else none

/-- Every word is read back from its number. -/
@[simp] theorem ofNat?_toNat (a : α) : ofNat? (toNat a) = some a := by
  simp [ofNat?, toNat_lt, ofNat_toNat]

/-- A number is a word exactly when it is in range, and then it is kept. -/
theorem ofNat?_eq_some_iff {n : Nat} {a : α} : ofNat? n = some a ↔ toNat a = n := by
  constructor
  · intro h
    unfold ofNat? at h
    split at h
    · next hn => cases h; exact toNat_ofNat hn
    · cases h
  · rintro rfl
    exact ofNat?_toNat a

/-- A word in decimal digits. -/
def text (a : α) : String :=
  natural (toNat a)

end Word

/-- Reads a word: a number in range. -/
def Text.word? {α : Type} [Word α] (cs : List Char) : Option α :=
  (natural? cs).bind Word.ofNat?

/-- **A written word reads back.** -/
@[simp] theorem Text.word?_digits {α : Type} [Word α] (a : α) :
    word? (digits (Word.toNat a)) = some a := by
  simp [word?]

end GuestConfig
