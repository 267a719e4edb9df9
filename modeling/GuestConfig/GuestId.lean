import GuestConfig.Text.Natural
import GuestConfig.Text.Quoted

/-!
# Guest IDs

Every guest of a cluster has a number of its own.  The names of its disk volumes carry that
number, so that it takes part in reading and writing them.

## What is here

* `GuestId` — a number within the range that the cluster assigns, with its range as a field.
* `GuestId.ofNat`, `GuestId.parse` — the two ways to one; `GuestId.ofNat_toNat` says that every
  ID is obtained from its number.
-/

set_option autoImplicit false

namespace GuestConfig

open Text (quoted natural natural?)

/-- The number of a guest. -/
structure GuestId where
  /-- The number itself. -/
  toNat : Nat
  /-- The smallest ID is 100. -/
  least_le : 100 ≤ toNat
  /-- The largest ID has nine digits. -/
  le_greatest : toNat ≤ 999999999
  deriving DecidableEq, Repr

/-- Why something is no guest ID. -/
inductive GuestIdError where
  /-- The number is outside of the range. -/
  | outOfRange (value : Nat)
  /-- The text is no number of 64 bits. -/
  | unparsable (text : String)
  deriving DecidableEq, Repr

/-- The cause in words. -/
def GuestIdError.message : GuestIdError → String
  | .outOfRange value => "guest ID " ++ natural value ++ " outside range of 100-999999999"
  | .unparsable text => "failed to parse guest ID " ++ quoted text

namespace GuestId

/-- The ID with a given number. -/
def ofNat (n : Nat) : Except GuestIdError GuestId :=
  if h : 100 ≤ n ∧ n ≤ 999999999 then .ok ⟨n, h.1, h.2⟩ else .error (.outOfRange n)

@[simp] theorem ofNat_toNat (id : GuestId) : ofNat id.toNat = .ok id := by
  simp [ofNat, id.least_le, id.le_greatest]

/-- Reads an ID.  A number must fit 64 bits to count as one. -/
def parse (s : String) : Except GuestIdError GuestId :=
  match (Text.word? s.toList : Option UInt64) with
  | some n => ofNat n.toNat
  | none => .error (.unparsable s)

/-- An ID in decimal digits. -/
def text (id : GuestId) : String :=
  natural id.toNat

end GuestId

end GuestConfig
