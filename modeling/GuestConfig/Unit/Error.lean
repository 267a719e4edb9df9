import GuestConfig.Text.Natural
import GuestConfig.Text.Quoted

/-!
# Why a quantity cannot be read

Sizes, rates and limits are written as decimals.  A text that is meant to be one can fail in four
ways, and every one of them quotes the whole text as it was given.
-/

set_option autoImplicit false

namespace GuestConfig

open Text (quoted natural)

/-- Why a text is not a quantity. -/
inductive UnitError where
  /-- The text ends in a letter that is no unit. -/
  | unknownSuffix (text : String)
  /-- The text is not a decimal. -/
  | notANumber (text : String)
  /-- The decimal has more places than `places`. -/
  | tooPrecise (text : String) (places : Nat)
  /-- The quantity does not fit its type. -/
  | overflow (text : String)
  deriving DecidableEq, Repr

/-- The cause in words. -/
def UnitError.message : UnitError → String
  | .unknownSuffix text => "unrecognized unit suffix in " ++ quoted text
  | .notANumber text => quoted text ++ " is not a number"
  | .tooPrecise text places =>
    quoted text ++ " has more than " ++ natural places ++ " decimal places"
  | .overflow text => quoted text ++ " is too large"

end GuestConfig
