import GuestConfig.Proofs.Text.Number
import GuestConfig.Unit.Decimal
import Mathlib.Algebra.Order.Floor.Semifield
import Mathlib.Data.Rat.Floor

/-!
# Decimals are scaled exactly

A decimal stands for a rational number, and scaling it by a unit is meant to give the whole part of
the product.  What is computed is something else: the digits before the point and those after it
are scaled apart, the second part is divided, and every number on the way has to fit 128 bits.  A
number on the way that does not fit can only come from the digits before the point, as long as the
fraction is short, and then the product is too large itself.  So no step refuses more than the last
one does, which asks for 64 bits.

## What is here

* `Decimal.Spells` and `Decimal.read?_eq_some_iff` — the texts of decimals.
* `Decimal.toRat` and `Decimal.value_eq_floor` — the number that a decimal stands for.
* `Text.digitsValue_lt` — so many digits stand for a number below that power of ten.
* `Decimal.bind_scale?_eq_some_iff`, `Decimal.bind_scale?_eq_none_iff` — **scaling is exact.**
-/

set_option autoImplicit false

namespace GuestConfig

open Text (digitsValue isBlank isDigits splitOnce splitOnce_append splitOnce_eq_none_iff
  splitOnce_eq_some_iff trim)

/-! ## Digits -/

namespace Text

theorem point_not_mem {ds : List Char} (h : ∀ c ∈ ds, c.isDigit = true) : '.' ∉ ds :=
  fun hmem ↦ absurd (h _ hmem) (by decide)

theorem toNat_sub_zero_le {c : Char} (h : c.isDigit = true) : c.toNat - '0'.toNat ≤ 9 := by
  have hc := isDigit_iff.1 h
  have hzero : '0'.toNat = 48 := rfl
  omega

theorem digitsValue_lt {ds : List Char} (h : ∀ c ∈ ds, c.isDigit = true) :
    digitsValue ds < 10 ^ ds.length := by
  induction ds with
  | nil => decide
  | cons c ds ih =>
    have hc := toNat_sub_zero_le (h c List.mem_cons_self)
    have hds := ih fun x hx ↦ h x (List.mem_cons_of_mem _ hx)
    have hfirst := Nat.mul_le_mul_left (10 ^ ds.length) hc
    rw [digitsValue, Nat.ofDigitChars_cons, Nat.ofDigitChars_eq_ofDigitChars_zero,
      List.length_cons, Nat.pow_succ, Nat.mul_zero, Nat.zero_add]
    rw [digitsValue] at hds
    omega

end Text

namespace Decimal

/-! ## Texts -/

/-- A text spells a decimal: digits, or digits around a point, at least one altogether. -/
inductive Spells : List Char → Decimal → Prop
  /-- Without a point. -/
  | whole {ds : List Char} (hne : ds ≠ []) (hdigits : ∀ c ∈ ds, c.isDigit = true) :
      Spells ds ⟨ds, []⟩
  /-- With a point. -/
  | point {ds fs : List Char} (hne : ds ≠ [] ∨ fs ≠ []) (hwhole : ∀ c ∈ ds, c.isDigit = true)
      (hfraction : ∀ c ∈ fs, c.isDigit = true) : Spells (ds ++ '.' :: fs) ⟨ds, fs⟩

namespace Spells

variable {cs : List Char} {d : Decimal}

theorem isDigit_fraction (h : Spells cs d) : ∀ c ∈ d.fraction, c.isDigit = true := by
  cases h with
  | whole => simp
  | point hne hwhole hfraction => exact hfraction

theorem isDigit_or (h : Spells cs d) {c : Char} (hc : c ∈ cs) : c.isDigit = true ∨ c = '.' := by
  cases h with
  | whole hne hdigits => exact .inl (hdigits c hc)
  | point hne hwhole hfraction =>
    rcases List.mem_append.1 hc with hc | hc
    · exact .inl (hwhole c hc)
    · rcases List.mem_cons.1 hc with hc | hc
      · exact .inr hc
      · exact .inl (hfraction c hc)

theorem isBlank_eq_false (h : Spells cs d) {c : Char} (hc : c ∈ cs) : isBlank c = false := by
  rcases h.isDigit_or hc with hdigit | rfl
  · exact Text.isBlank_eq_false_of_isDigit hdigit
  · decide

theorem trim_eq (h : Spells cs d) : trim cs = cs :=
  Text.trim_eq_self_of_all fun _ ↦ h.isBlank_eq_false

end Spells

/-- What the two sides of a point are read as. -/
private theorem ofSides_eq_some_iff {ds fs : List Char} {d : Decimal} :
    (if ds.isEmpty && fs.isEmpty then none
      else if isDigits ds && isDigits fs then some (⟨ds, fs⟩ : Decimal) else none) = some d ↔
      (ds ≠ [] ∨ fs ≠ []) ∧ (∀ c ∈ ds, c.isDigit = true) ∧ (∀ c ∈ fs, c.isDigit = true) ∧
        d = ⟨ds, fs⟩ := by
  have hempty : (ds.isEmpty && fs.isEmpty) = true ↔ ¬(ds ≠ [] ∨ fs ≠ []) := by
    simp [List.isEmpty_iff, not_or]
  have hdigits : (isDigits ds && isDigits fs) = true ↔
      (∀ c ∈ ds, c.isDigit = true) ∧ ∀ c ∈ fs, c.isDigit = true := by
    simp [isDigits]
  split
  · next h => simp [hempty.1 h]
  · next h =>
    rw [and_iff_right (not_not.1 (mt hempty.2 h)), ← and_assoc, ← hdigits]
    split
    · next h => simp [h, eq_comm]
    · next h => simp [h]

/-- **The texts that are read as a decimal.** -/
theorem read?_eq_some_iff {cs : List Char} {d : Decimal} : read? cs = some d ↔ Spells cs d := by
  unfold read?
  constructor
  · intro h
    cases hsplit : splitOnce '.' cs with
    | none =>
      rw [hsplit] at h
      obtain ⟨hne, hdigits, -, rfl⟩ := ofSides_eq_some_iff.1 h
      exact .whole (hne.resolve_right (not_not.2 rfl)) hdigits
    | some sides =>
      rw [hsplit] at h
      obtain ⟨hne, hwhole, hfraction, rfl⟩ := ofSides_eq_some_iff.1 h
      rw [(splitOnce_eq_some_iff.1 hsplit).1]
      exact .point hne hwhole hfraction
  · intro h
    cases h with
    | whole hne hdigits =>
      rw [splitOnce_eq_none_iff.2 (Text.point_not_mem hdigits)]
      exact ofSides_eq_some_iff.2 ⟨.inl hne, hdigits, by simp, rfl⟩
    | point hne hwhole hfraction =>
      rw [splitOnce_append _ (Text.point_not_mem hwhole)]
      exact ofSides_eq_some_iff.2 ⟨hne, hwhole, hfraction, rfl⟩

/-! ## Values -/

/-- The number that a decimal stands for. -/
def toRat (d : Decimal) : ℚ :=
  digitsValue d.whole + digitsValue d.fraction / 10 ^ d.fraction.length

theorem cast_denominator (d : Decimal) : (d.denominator : ℚ) = 10 ^ d.fraction.length := by
  rw [denominator, Nat.pow_eq]
  push_cast
  rfl

theorem toRat_eq (d : Decimal) : d.toRat = d.numerator / d.denominator := by
  rw [toRat, numerator_eq, Nat.cast_add, Nat.cast_mul, cast_denominator]
  field_simp

/-- What a decimal is scaled to is the whole part of the product. -/
theorem value_eq_floor (d : Decimal) (unit : ℕ) : d.value unit = ⌊d.toRat * unit⌋₊ := by
  rw [toRat_eq, div_mul_eq_mul_div, ← Nat.cast_mul, Nat.floor_div_eq_div, value]

/-! ## Scaling -/

theorem wide?_of_lt {n : Nat} (h : n < 2 ^ 128) : wide? n = some n := by
  rw [wide?, if_pos]
  rwa [Nat.shiftLeft_eq, Nat.one_mul]

/-- Scaling works as long as no number on the way is too large. -/
theorem scale?_of_lt {d : Decimal} {unit : Nat} (hwhole : digitsValue d.whole < 2 ^ 128)
    (hfraction : digitsValue d.fraction < 2 ^ 128) (hdenominator : d.denominator < 2 ^ 128)
    (hproduct : digitsValue d.fraction * unit < 2 ^ 128) (hvalue : d.value unit < 2 ^ 128) :
    d.scale? unit = some (d.value unit) := by
  rw [value_eq] at hvalue ⊢
  have hscaled : digitsValue d.whole * unit < 2 ^ 128 :=
    Nat.lt_of_le_of_lt (Nat.le_add_right _ _) hvalue
  simp only [scale?, wide?_of_lt hwhole, wide?_of_lt hscaled, Option.bind_eq_bind,
    Option.bind_some]
  split
  · next hempty =>
    rw [List.isEmpty_iff.1 hempty]
    simp [digitsValue]
  · rw [wide?_of_lt hfraction, wide?_of_lt hdenominator, Option.bind_some, Option.bind_some,
      wide?_of_lt hproduct, Option.bind_some, wide?_of_lt hvalue]

section exact

variable {d : Decimal} {unit : Nat} (hdigits : ∀ c ∈ d.fraction, c.isDigit = true)
  (hunit : 0 < unit) (hshort : 10 ^ d.fraction.length * unit < 2 ^ 128)
include hdigits hunit hshort

/-- **Scaling a decimal with a short fraction is exact**: a product below `2 ^ 64` is found. -/
theorem bind_scale?_eq_some_iff {n : UInt64} :
    (d.scale? unit).bind Word.ofNat? = some n ↔ d.value unit = n.toNat := by
  constructor
  · intro h
    obtain ⟨m, hscale, hword⟩ := Option.bind_eq_some_iff.1 h
    rw [← scale?_eq hscale]
    exact (Word.ofNat?_eq_some_iff.1 hword).symm
  · intro h
    have hword : (Word.ofNat? n.toNat : Option UInt64) = some n := Word.ofNat?_toNat n
    have hn : n.toNat < 2 ^ 64 := n.toNat_lt
    have hdenominator : d.denominator < 2 ^ 128 :=
      Nat.lt_of_le_of_lt (Nat.le_mul_of_pos_right _ hunit) hshort
    have hfraction : digitsValue d.fraction < d.denominator := Text.digitsValue_lt hdigits
    have hproduct : digitsValue d.fraction * unit < 2 ^ 128 :=
      Nat.lt_of_le_of_lt (Nat.mul_le_mul_right _ hfraction.le) hshort
    -- the digits before the point are at most the product
    have hwhole : digitsValue d.whole ≤ d.value unit := by
      rw [value_eq]
      exact Nat.le_add_right_of_le (Nat.le_mul_of_pos_right _ hunit)
    rw [scale?_of_lt (by omega) (by omega) hdenominator hproduct (by omega), Option.bind_some, h,
      hword]

theorem bind_scale?_eq_none_iff :
    (d.scale? unit).bind (Word.ofNat? : Nat → Option UInt64) = none ↔
      2 ^ 64 ≤ d.value unit := by
  rw [Option.eq_none_iff_forall_ne_some]
  simp only [ne_eq, bind_scale?_eq_some_iff hdigits hunit hshort]
  constructor
  · intro h
    refine Nat.not_lt.1 fun hlt ↦ h (UInt64.ofNat (d.value unit)) ?_
    exact (UInt64.toNat_ofNat_of_lt' hlt).symm
  · intro h n hn
    have := n.toNat_lt
    omega

end exact

end Decimal

end GuestConfig
