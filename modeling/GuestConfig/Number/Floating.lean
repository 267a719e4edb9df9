import GuestConfig.Number.Shortest
import GuestConfig.Text.Natural

/-!
# Floating point numbers as text

The API and the documents that operators write may give a number with a fraction or an exponent.
Such a number is a 64-bit floating point number: the nearest one to the decimal in the text.  Where
a number has to become a text again, it is the shortest decimal that reads back, written out in
full unless it is very large or very small.

## What is here

* `nearest` — the floating point number nearest to `digits · 10 ^ exponent`.
* `floating?` — reads a text: a decimal with an optional exponent, or the name of an infinity or
  of the value that is no number.
* `floatingText` — writes a finite number, with at least one place after the point: `1000.0`,
  `0.00001`, `1e-7`, `1e+16`, `-0.0`.
-/

set_option autoImplicit false

namespace GuestConfig.Number

open GuestConfig.Text (digits digitsValue isDigits splitOnce)

/-! ## Reading -/

/-- The floating point number nearest to `digits · 10 ^ exponent`.  Beyond four hundred places on
either side of the point nothing but an infinity or a zero can result. -/
def nearest (mantissa : Nat) (exponent : Int) : Float :=
  let places := ((Nat.toDigits 10 mantissa).length : Int) + exponent
  if mantissa = 0 ∨ places < -400 then 0.0
  else if 400 < places then 1.0 / 0.0
  else Float.ofScientific mantissa (exponent < 0) exponent.natAbs

/-- A text without the sign it may start with, and whether that sign was a minus. -/
def signed : List Char → Bool × List Char
  | '-' :: cs => (true, cs)
  | '+' :: cs => (false, cs)
  | cs => (false, cs)

/-- The exponent that a text of digits with an optional sign stands for. -/
def exponent? (cs : List Char) : Option Int :=
  let (negative, ds) := signed cs
  if ds.isEmpty || !isDigits ds then none
  else some (if negative then -(digitsValue ds : Int) else digitsValue ds)

/-- A decimal without a sign: digits with an optional fraction and an optional exponent, at least
one digit before or after the point. -/
def unsignedFloating? (cs : List Char) : Option Float := do
  let lower := cs.map Char.toLower
  let (mantissa, exponent) ←
    match splitOnce 'e' lower with
    | some (m, e) => (exponent? e).map fun e ↦ (m, e)
    | none => some (lower, 0)
  let (whole, fraction) := (splitOnce '.' mantissa).getD (mantissa, [])
  if (whole ++ fraction).isEmpty || !isDigits whole || !isDigits fraction then none
  else some (nearest (digitsValue (whole ++ fraction)) (exponent - fraction.length))

/-- Reads a floating point number, also `inf`, `infinity` and `nan` in either case. -/
def floating? (cs : List Char) : Option Float := do
  let (negative, body) := signed cs
  let value ←
    match String.ofList (body.map Char.toLower) with
    | "inf" | "infinity" => some (1.0 / 0.0)
    | "nan" => some (0.0 / 0.0)
    | _ => unsignedFloating? body
  some (if negative then -value else value)

/-! ## Writing -/

/-- The first place whose numbers are written with an exponent: those from `10 ^ 16` on. -/
def largeExponent : Int := 16

/-- The last place whose numbers are written out in full: those from `10 ^ -5` on. -/
def smallExponent : Int := -5

/-- A decimal written out in full if it is neither large nor small, else with an exponent. -/
def Scientific.text (d : Scientific) : List Char :=
  let ds := digits d.coefficient
  let places := (ds.length : Int) + d.exponent
  let leading := places - 1
  if smallExponent ≤ leading ∧ leading < largeExponent then
    if 0 ≤ d.exponent then ds ++ List.replicate d.exponent.toNat '0' ++ ['.', '0']
    else if 0 < places then ds.take places.toNat ++ '.' :: ds.drop places.toNat
    else ['0', '.'] ++ List.replicate (-places).toNat '0' ++ ds
  else
    let sign := if leading < 0 then '-' else '+'
    let fraction := if ds.length = 1 then [] else '.' :: ds.drop 1
    ds.take 1 ++ fraction ++ ['e', sign] ++ digits leading.natAbs

/-- A finite number in its shortest decimal. -/
def floatingText (x : Float) : String :=
  let magnitude :=
    match binary? x with
    | some v => v.shortest.text
    | none => ['0', '.', '0']
  String.ofList (if isNegative x then '-' :: magnitude else magnitude)

end GuestConfig.Number
