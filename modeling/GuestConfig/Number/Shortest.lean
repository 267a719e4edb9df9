/-!
# The shortest decimal of a floating point number

A 64-bit floating point number is a binary fraction `m · 2 ^ q`, and every real number close
enough to it rounds to it.  The decimal that stands for it is the one with the fewest digits among
those that do, and of two with equally few digits the nearer one, or the even one if both are
equally near.

## What is here

* `Binary` — a positive number as `m · 2 ^ q`, and `Float.binary?`, the parts of a finite one.
* `Binary.roundsTo` — whether a decimal lies in the interval of the reals that round to the
  number.  The interval reaches half-way to the neighbours, which are closer below a power of two;
  its ends belong to it when `m` is even.
* `Scientific` and `Binary.shortest` — the digits and their exponent.  The grids of decimals are
  tried from coarse to fine; on each, only the two neighbours of the number can round to it.

All arithmetic is on natural numbers, so nothing is rounded on the way.
-/

set_option autoImplicit false

namespace GuestConfig.Number

/-! ## The parts of a number -/

/-- The positive number `mantissa · 2 ^ exponent`. -/
structure Binary where
  /-- The digits, as a natural number. -/
  mantissa : Nat
  /-- The power of two that they are scaled by. -/
  exponent : Int
  /-- Whether the next number below is only half as far away as the next number above. -/
  lowerHalf : Bool
  deriving DecidableEq, Repr

/-- Whether the sign of a number is negative, also for a zero. -/
def isNegative (x : Float) : Bool :=
  x.toBits >>> 63 == 1

/-- The parts of a finite number other than zero, its sign aside. -/
def binary? (x : Float) : Option Binary :=
  let bits := x.toBits.toNat
  let leading : Nat := 1 <<< 52
  let fraction : Nat := bits % leading
  let scale : Nat := bits / leading % 0x800
  if scale = 0x7FF then none
  else if scale = 0 then
    if fraction = 0 then none else some ⟨fraction, -1074, false⟩
  else some ⟨leading + fraction, (scale : Int) - 1075, fraction = 0 && 1 < scale⟩

/-! ## The decimals that round to a number -/

/-- The decimal `coefficient · 10 ^ exponent`. -/
structure Scientific where
  /-- The digits, as a natural number. -/
  coefficient : Nat
  /-- The power of ten that they are scaled by. -/
  exponent : Int
  deriving DecidableEq, Repr

/-- `b ^ e` for `e` not negative, else one. -/
def upper (b : Nat) (e : Int) : Nat :=
  Nat.pow b e.toNat

/-- `b ^ -e` for `e` negative, else one. -/
def lower (b : Nat) (e : Int) : Nat :=
  Nat.pow b (-e).toNat

/-- Four times the number and four times `10 ^ t`, over one denominator. -/
def Binary.scaled (v : Binary) (t : Int) : Nat × Nat :=
  (4 * v.mantissa * upper 2 v.exponent * lower 10 t, 4 * upper 10 t * lower 2 v.exponent)

/-- Whether the decimal `d · 10 ^ t` rounds to the number. -/
def Binary.roundsTo (v : Binary) (d : Nat) (t : Int) : Bool :=
  let unit := upper 2 v.exponent * lower 10 t
  let low := (4 * v.mantissa - if v.lowerHalf then 1 else 2) * unit
  let high := (4 * v.mantissa + 2) * unit
  let point := d * (4 * upper 10 t * lower 2 v.exponent)
  if v.mantissa % 2 = 0 then low ≤ point && point ≤ high else low < point && point < high

/-- Whether the multiple of `step` right below a number is to be preferred to the one right above:
it is nearer, or as near and even. -/
def prefersBelow (number step : Nat) : Bool :=
  2 * (number % step) < step || (2 * (number % step) == step && number / step % 2 == 0)

/-- The decimal on the grid of step `10 ^ t` that rounds to the number: of its two neighbours
there, the preferred one if both do. -/
def Binary.onGrid? (v : Binary) (t : Int) : Option Scientific :=
  let (number, step) := v.scaled t
  let below := number / step
  let (nearer, farther) :=
    if prefersBelow number step then (below, below + 1) else (below + 1, below)
  if v.roundsTo nearer t && nearer ≠ 0 then some ⟨nearer, t⟩
  else if v.roundsTo farther t && farther ≠ 0 then some ⟨farther, t⟩
  else none

/-- The first grid with a decimal that rounds to the number, from step `10 ^ t` down. -/
def Binary.fromGrid (v : Binary) (t : Int) : Nat → Scientific
  | 0 => ⟨v.mantissa, v.exponent⟩
  | fuel + 1 =>
    match v.onGrid? t with
    | some d => d
    | none => v.fromGrid (t - 1) fuel

/-- **The shortest decimal that rounds to a number.**  Three tenths of the binary exponent bound
the decimal one from above, and seventeen digits always suffice, so twenty-four grids are enough. -/
def Binary.shortest (v : Binary) : Scientific :=
  v.fromGrid (((v.mantissa.log2 : Int) + v.exponent) * 30103 / 100000 + 2) 24

end GuestConfig.Number
