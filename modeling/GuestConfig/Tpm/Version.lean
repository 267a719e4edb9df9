import GuestConfig.Token

/-!
# Versions of the TPM

An emulated TPM implements one of two versions of the standard.  The version is fixed when its
state volume is made.
-/

set_option autoImplicit false

namespace GuestConfig

/-- The version of the standard that a TPM implements. -/
inductive TpmVersion where
  /-- TPM 1.2. -/
  | v1_2
  /-- TPM 2.0. -/
  | v2_0
  deriving DecidableEq, Repr

instance : Token TpmVersion where
  members := [.v1_2, .v2_0]
  name
    | .v1_2 => "v1.2"
    | .v2_0 => "v2.0"
  complete a := by cases a <;> decide
  distinct a b h := by cases a <;> cases b <;> simp_all

end GuestConfig
