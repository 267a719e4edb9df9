import GuestConfig.Unit.Decimal
import GuestConfig.Unit.Error
import GuestConfig.Text.Split

/-!
# Fixed-point decimals

Rates and limits have a fixed number of places and are kept as whole numbers, `1.5` with three
places as `1500`.  Zeros at the end of a fraction carry nothing: they are forgiven on input and
never written.

## What is here

* `dropZeros` — a row of digits without its final zeros.
* `parseDecimal`, `formatDecimal` — the two directions.
* `scaleFloat` — the fixed-point value nearest to a floating point number.
-/

set_option autoImplicit false

namespace GuestConfig

open Text (trim digits)

/-- A row of digits without the zeros at its end. -/
def dropZeros (ds : List Char) : List Char :=
  (ds.reverse.dropWhile (· == '0')).reverse

/-- Reads a decimal as a whole number of `10 ^ -places`. -/
def parseDecimal (s : String) (places : Nat) : Except UnitError UInt64 :=
  match Decimal.read? (trim s.toList) with
  | none => .error (.notANumber s)
  | some d =>
    let fraction := dropZeros d.fraction
    if places < fraction.length then .error (.tooPrecise s places)
    else
      match (Decimal.scale? { d with fraction := fraction } (Nat.pow 10 places)).bind Word.ofNat? with
      | some n => .ok n
      | none => .error (.overflow s)

/-- The digits of a number, filled up with zeros in front to `width` places. -/
def padded (width n : Nat) : List Char :=
  List.replicate (width - (digits n).length) '0' ++ digits n

/-- Writes a whole number of `10 ^ -places` as a decimal. -/
def formatDecimal (n places : Nat) : String :=
  let whole := digits (n / Nat.pow 10 places)
  let fraction := n % Nat.pow 10 places
  String.ofList (if fraction = 0 then whole
    else whole ++ '.' :: dropZeros (padded places fraction))

/-- The number of `10 ^ -places` nearest to a floating point number, a half away from zero; `none`
if the number is negative, infinite, or no number, or if the result does not fit 64 bits.  The
largest number that still counts is `2 ^ 64` itself, which gives the largest result. -/
def scaleFloat (x : Float) (places : Nat) : Option UInt64 :=
  if !x.isFinite || x < 0 then none
  else
    let scaled := (x * Float.ofNat (Nat.pow 10 places)).round
    if Float.ofNat UInt64.size < scaled then none else some scaled.toUInt64

end GuestConfig
