import GuestConfig.Unit.Decimal
import GuestConfig.Unit.Error
import GuestConfig.Unit.FixedPoint

/-!
# Sizes

Every size is a number of kibibytes.  In a text it is a decimal with an optional unit, `4100K` or
`1.5G`; where a new disk is asked for, it is a number of gibibytes with at most three places.

## What is here

* `SizeUnit` — the four units and the kibibytes in each.
* `parseSize` — reads a size; parts of a kibibyte are dropped.
* `formatSize` — writes a size in the largest unit that divides it, so that no digit is lost.
* `formatGibibytes` — writes a size in gibibytes, rounded to thousandths; only an empty size is
  written as zero.
-/

set_option autoImplicit false

namespace GuestConfig

open Text (trim natural)

/-! ## Units -/

/-- The units that a size may be written in. -/
inductive SizeUnit where
  /-- `K`, 1 KiB. -/
  | kibibyte
  /-- `M`, 1024 KiB. -/
  | mebibyte
  /-- `G`, 1024 MiB. -/
  | gibibyte
  /-- `T`, 1024 GiB. -/
  | tebibyte
  deriving DecidableEq, Repr

namespace SizeUnit

/-- The kibibytes in a unit. -/
def kibibytes : SizeUnit → Nat
  | kibibyte => 1
  | mebibyte => 1024
  | gibibyte => 1024 * 1024
  | tebibyte => 1024 * 1024 * 1024

/-- The letter that stands for a unit. -/
def letter : SizeUnit → Char
  | kibibyte => 'K'
  | mebibyte => 'M'
  | gibibyte => 'G'
  | tebibyte => 'T'

/-- The unit that a letter stands for, in either case. -/
def ofLetter? (c : Char) : Option SizeUnit :=
  match c.toUpper with
  | 'K' => some kibibyte
  | 'M' => some mebibyte
  | 'G' => some gibibyte
  | 'T' => some tebibyte
  | _ => none

theorem kibibytes_pos (u : SizeUnit) : 0 < u.kibibytes := by
  cases u <;> decide

end SizeUnit

/-! ## Reading -/

/-- The most places that a size may have. -/
def sizePlaces : Nat := 18

/-- A size without its unit, and the unit; a size without a letter at its end counts kibibytes.
`none` if the letter is no unit. -/
def splitUnit? (cs : List Char) : Option (List Char × SizeUnit) :=
  match cs.getLast? with
  | some c =>
    if c.isAlpha then (SizeUnit.ofLetter? c).map fun u ↦ (cs.dropLast, u)
    else some (cs, .kibibyte)
  | none => some (cs, .kibibyte)

@[simp] theorem splitUnit?_nil : splitUnit? [] = some ([], .kibibyte) :=
  rfl

theorem splitUnit?_concat (cs : List Char) (c : Char) :
    splitUnit? (cs ++ [c]) =
      if c.isAlpha then (SizeUnit.ofLetter? c).map fun u ↦ (cs, u)
      else some (cs ++ [c], .kibibyte) := by
  rw [splitUnit?, List.getLast?_concat, List.dropLast_concat]

/-- Reads a size, in kibibytes. -/
def parseSize (s : String) : Except UnitError UInt64 :=
  match splitUnit? (trim s.toList) with
  | none => .error (.unknownSuffix s)
  | some (body, u) =>
    match Decimal.read? body with
    | none => .error (.notANumber s)
    | some d =>
      if sizePlaces < d.fraction.length then .error (.tooPrecise s sizePlaces)
      else
        match (d.scale? u.kibibytes).bind Word.ofNat? with
        | some kib => .ok kib
        | none => .error (.overflow s)

/-! ## Writing -/

/-- The largest unit that divides a size; kibibytes for an empty one. -/
def largestUnit (kib : Nat) : SizeUnit :=
  if kib = 0 then .kibibyte
  else if SizeUnit.tebibyte.kibibytes ∣ kib then .tebibyte
  else if SizeUnit.gibibyte.kibibytes ∣ kib then .gibibyte
  else if SizeUnit.mebibyte.kibibytes ∣ kib then .mebibyte
  else .kibibyte

theorem largestUnit_dvd (kib : Nat) : (largestUnit kib).kibibytes ∣ kib := by
  unfold largestUnit
  split
  · exact Nat.one_dvd kib
  · split
    · assumption
    · split
      · assumption
      · split
        · assumption
        · exact Nat.one_dvd kib

/-- Writes a size in its largest unit. -/
def formatSize (kib : UInt64) : String :=
  let u := largestUnit kib.toNat
  natural (kib.toNat / u.kibibytes) ++ String.singleton u.letter

/-- A size in thousandths of a gibibyte, a half rounded up; a size that is not empty has at least
one. -/
def gibibyteThousandths (kib : Nat) : Nat :=
  let gibibyte := SizeUnit.gibibyte.kibibytes
  let rounded := (kib * 1000 + gibibyte / 2) / gibibyte
  if rounded = 0 ∧ 0 < kib then 1 else rounded

/-- Writes a size in gibibytes. -/
def formatGibibytes (kib : UInt64) : String :=
  formatDecimal (gibibyteThousandths kib.toNat) 3

end GuestConfig
