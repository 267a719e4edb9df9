import GuestConfig.Text.Natural
import GuestConfig.Text.Quoted
import GuestConfig.Text.Split

/-!
# Product versions

What the API understands depends on the version of the product behind it.  A version has one to
three numbers between dots, and the numbers that are left out are zero.

## What is here

* `Version` and its order: `atLeast` compares the three numbers from left to right; by
  `atLeast_trans`, a newer version offers whatever an older one did.
* `Version.parse`, `Version.text` — the two directions.
* `VersionError` — why a text is no version.
-/

set_option autoImplicit false

namespace GuestConfig

open Text (quoted trim splitOn natural)

/-- A version of the product. -/
structure Version where
  /-- Incremented for a new generation. -/
  major : UInt8
  /-- Incremented for a release. -/
  minor : UInt8
  /-- Incremented for a correction. -/
  patch : UInt8
  deriving DecidableEq, Repr

/-- Why a text is no version. -/
inductive VersionError where
  /-- A part of the version is no number below 256. -/
  | component (version part : String)
  /-- The version has more than three parts. -/
  | componentCount (version : String)
  deriving DecidableEq, Repr

/-- The cause in words. -/
def VersionError.message : VersionError → String
  | .component version part =>
    "failed to parse version component " ++ quoted part ++ " of " ++ quoted version
  | .componentCount version =>
    "expected 1 to 3 dot-separated components in version " ++ quoted version

namespace Version

/-! ## The order -/

/-- Whether a version is `other` or newer. -/
def atLeast (v other : Version) : Bool :=
  other.major < v.major ||
    (other.major == v.major &&
      (other.minor < v.minor || (other.minor == v.minor && other.patch ≤ v.patch)))

theorem atLeast_iff {v other : Version} : v.atLeast other = true ↔
    other.major.toNat < v.major.toNat ∨ (other.major.toNat = v.major.toNat ∧
      (other.minor.toNat < v.minor.toNat ∨ (other.minor.toNat = v.minor.toNat ∧
        other.patch.toNat ≤ v.patch.toNat))) := by
  simp [atLeast, UInt8.lt_iff_toNat_lt, UInt8.le_iff_toNat_le, ← UInt8.toNat_inj]

/-- **A version that is new enough for another is new enough for all older ones.** -/
theorem atLeast_trans {u v w : Version} (huv : u.atLeast v = true) (hvw : v.atLeast w = true) :
    u.atLeast w = true := by
  rw [atLeast_iff] at *
  omega

/-! ## Reading and writing -/

/-- One number of a version. -/
def component (version : List Char) (part : List Char) : Except VersionError UInt8 :=
  match Text.word? part with
  | some n => .ok n
  | none => .error (.component (String.ofList version) (String.ofList part))

/-- Reads a version. -/
def parse (s : String) : Except VersionError Version :=
  let version := trim s.toList
  match splitOn '.' version with
  | [a] => do return ⟨← component version a, 0, 0⟩
  | [a, b] => do return ⟨← component version a, ← component version b, 0⟩
  | [a, b, c] => do
    return ⟨← component version a, ← component version b, ← component version c⟩
  | _ => .error (.componentCount (String.ofList version))

/-- Writes a version, all three numbers of it. -/
def text (v : Version) : String :=
  Word.text v.major ++ "." ++ Word.text v.minor ++ "." ++ Word.text v.patch

end Version

end GuestConfig
