import GuestConfig.Proofs.Text.Split

/-!
# Whole numbers read back

Every number that a plan writes is read again by the next one.  Whole numbers are their digits, and
they are read a little more generously than they are written: with zeros in front, and after a plus
sign.

## What is here

* `Word.toList_text` — a number is its digits.
* `Text.Spells` and `Text.word?_eq_some_iff` — the texts that stand for a number.
-/

set_option autoImplicit false

namespace GuestConfig

open Text (digits digitsValue trim)

/-! ## Whole numbers -/

theorem Word.toList_text {α : Type} [Word α] (a : α) : (text a).toList = digits (toNat a) :=
  Text.toList_natural _

theorem Text.trim_digits (n : Nat) : trim (digits n) = digits n :=
  trim_eq_self_of_all fun _ hc ↦ isBlank_eq_false_of_isDigit (isDigit_of_mem_digits hc)

/-! ## Texts of numbers -/

namespace Text

variable {α : Type} [Word α]

/-- A text stands for a number of fixed width: decimal digits, after at most one plus sign. -/
inductive Spells : List Char → α → Prop
  /-- The digits alone. -/
  | plain {ds : List Char} {a : α} (hne : ds ≠ []) (hdigits : ∀ c ∈ ds, c.isDigit = true)
      (hvalue : digitsValue ds = Word.toNat a) : Spells ds a
  /-- The digits after a plus sign. -/
  | signed {ds : List Char} {a : α} (hne : ds ≠ []) (hdigits : ∀ c ∈ ds, c.isDigit = true)
      (hvalue : digitsValue ds = Word.toNat a) : Spells ('+' :: ds) a

/-- A text is what is left of it without a plus sign, but for that sign. -/
theorem eq_or_eq_cons_unsigned (cs : List Char) : cs = unsigned cs ∨ cs = '+' :: unsigned cs := by
  unfold unsigned
  split
  · exact .inr rfl
  · exact .inl rfl

/-- **The texts that are read as a number.** -/
theorem word?_eq_some_iff {cs : List Char} {a : α} : word? cs = some a ↔ Spells cs a := by
  have hread : word? cs = some a ↔ natural? cs = some (Word.toNat a) := by
    rw [word?, Option.bind_eq_some_iff]
    simp only [Word.ofNat?_eq_some_iff]
    constructor
    · rintro ⟨n, hn, rfl⟩
      exact hn
    · exact fun hn ↦ ⟨_, hn, rfl⟩
  rw [hread, natural?_eq_some_iff]
  constructor
  · rintro ⟨hne, hdigits, hvalue⟩
    have hdigits := List.all_eq_true.1 hdigits
    have hsign := eq_or_eq_cons_unsigned cs
    generalize unsigned cs = ds at *
    rcases hsign with rfl | rfl
    · exact .plain hne hdigits hvalue
    · exact .signed hne hdigits hvalue
  · intro h
    cases h with
    | plain hne hdigits hvalue =>
      rw [unsigned_eq_self (List.all_eq_true.2 hdigits)]
      exact ⟨hne, List.all_eq_true.2 hdigits, hvalue⟩
    | signed hne hdigits hvalue => exact ⟨hne, List.all_eq_true.2 hdigits, hvalue⟩

theorem Spells.isDigit_or {cs : List Char} {a : α} (h : Spells cs a) {c : Char} (hc : c ∈ cs) :
    c.isDigit = true ∨ c = '+' := by
  cases h with
  | plain hne hdigits hvalue => exact .inl (hdigits c hc)
  | signed hne hdigits hvalue =>
    rcases List.mem_cons.1 hc with rfl | hc
    · exact .inr rfl
    · exact .inl (hdigits c hc)

end Text

end GuestConfig
