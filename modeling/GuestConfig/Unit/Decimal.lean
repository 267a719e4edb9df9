import GuestConfig.Text.Natural

/-!
# Decimals

A decimal is a row of digits with at most one point in it, such as `512`, `1.5` or `.5`.  Nothing
is ever computed with the decimal itself: it is scaled by the unit that it counts, and what is
left of the fraction after that is dropped.

## What is here

* `Decimal` — the digits before the point and the digits after it, and `Decimal.read?`.
* `Decimal.value` — the exact scaled value, as a quotient of natural numbers; this is what scaling
  is meant to compute.
* `Decimal.scale?` — scaling with intermediate results that must fit 128 bits, and
  `Decimal.scale?_eq`, which says that a result is the floor of `Decimal.value`.
-/

set_option autoImplicit false

namespace GuestConfig

open Text (isDigits digitsValue splitOnce)

/-- A decimal without a sign. -/
structure Decimal where
  /-- The digits before the point. -/
  whole : List Char
  /-- The digits after the point. -/
  fraction : List Char
  deriving DecidableEq, Repr

namespace Decimal

/-- Reads a decimal: digits around at most one point, at least one digit altogether. -/
def read? (cs : List Char) : Option Decimal :=
  let (whole, fraction) := (splitOnce '.' cs).getD (cs, [])
  if whole.isEmpty && fraction.isEmpty then none
  else if isDigits whole && isDigits fraction then some ⟨whole, fraction⟩
  else none

/-- All digits of a decimal as one number. -/
def numerator (d : Decimal) : Nat :=
  digitsValue (d.whole ++ d.fraction)

/-- What that number has to be divided by. -/
def denominator (d : Decimal) : Nat :=
  Nat.pow 10 d.fraction.length

/-- The whole part of a decimal multiplied by `unit`. -/
def value (d : Decimal) (unit : Nat) : Nat :=
  d.numerator * unit / d.denominator

theorem numerator_eq (d : Decimal) :
    d.numerator = digitsValue d.whole * d.denominator + digitsValue d.fraction := by
  rw [numerator, denominator, digitsValue, Nat.ofDigitChars_append,
    Nat.ofDigitChars_eq_ofDigitChars_zero, Nat.mul_comm]
  rfl

theorem value_eq (d : Decimal) (unit : Nat) :
    d.value unit =
      digitsValue d.whole * unit + digitsValue d.fraction * unit / d.denominator := by
  have hden : 0 < d.denominator := Nat.pow_pos (by decide)
  rw [value, numerator_eq, Nat.add_mul, Nat.mul_right_comm, Nat.add_comm,
    Nat.add_mul_div_right _ _ hden, Nat.add_comm]

/-- A number that fits 128 bits. -/
def wide? (n : Nat) : Option Nat :=
  if n < 1 <<< 128 then some n else none

theorem wide?_eq_some {n m : Nat} (h : wide? n = some m) : m = n := by
  unfold wide? at h
  split at h
  · exact (Option.some.inj h).symm
  · cases h

/-- A decimal multiplied by `unit`, the two sides of the point apart and every number on the way
within 128 bits. -/
def scale? (d : Decimal) (unit : Nat) : Option Nat := do
  let whole ← wide? (digitsValue d.whole)
  let scaled ← wide? (whole * unit)
  if d.fraction.isEmpty then return scaled
  let part ← wide? (digitsValue d.fraction)
  let denominator ← wide? d.denominator
  let product ← wide? (part * unit)
  wide? (scaled + product / denominator)

/-- **Scaling computes the floor of the exact product.** -/
theorem scale?_eq {d : Decimal} {unit n : Nat} (h : d.scale? unit = some n) :
    n = d.value unit := by
  simp only [scale?, Option.bind_eq_bind, Option.bind_eq_some_iff] at h
  obtain ⟨whole, hw, scaled, hs, h⟩ := h
  rw [wide?_eq_some hw] at hs
  split at h
  · next hf =>
    rw [← Option.some.inj h, wide?_eq_some hs, value_eq, List.isEmpty_iff.1 hf]
    simp [digitsValue]
  · simp only [Option.bind_eq_some_iff] at h
    obtain ⟨part, hp, den, hd, product, hq, h⟩ := h
    rw [wide?_eq_some hp] at hq
    rw [wide?_eq_some h, wide?_eq_some hs, wide?_eq_some hq, wide?_eq_some hd, value_eq]

end Decimal

end GuestConfig
