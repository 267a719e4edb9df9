import GuestConfig.Error.Rule
import GuestConfig.Unit.Error

/-!
# Why a stored configuration cannot be decoded

What the API reports about a guest is decoded field by field, and the first field that makes no
sense ends it.  A cause names the option or the value that is wrong; around it stands the field
that it was found in, and sometimes a cause of another kind stands behind it.
-/

set_option autoImplicit false

namespace GuestConfig

open Text (quoted)

/-- Why a stored configuration cannot be decoded. -/
inductive WireError where
  /-- A field cannot be decoded. -/
  | inField (key : String) (cause : WireError)
  /-- A value is of the wrong kind. -/
  | unexpectedType (expected : String)
  /-- An option has a value that it cannot have. -/
  | invalidOption (option value : String)
  /-- A word is not among the known ones of its kind. -/
  | unknownToken (kind value : String)
  /-- The name of a volume is malformed. -/
  | malformedVolume (text : String)
  /-- An option that has to be there is not. -/
  | missingOption (option : String)
  /-- A size or a rate is malformed. -/
  | size (cause : UnitError)
  /-- A value breaks a rule of configurations. -/
  | invalid (cause : RuleError)
  deriving DecidableEq, Repr

namespace WireError

/-- The cause in words, without what stands behind it. -/
def message : WireError → String
  | inField key _ => "failed to decode wire field " ++ quoted key
  | unexpectedType expected => "expected a " ++ expected ++ " value"
  | invalidOption option value =>
    "invalid value " ++ quoted value ++ " for option " ++ quoted option
  | unknownToken kind value => "unknown " ++ kind ++ " " ++ quoted value
  | malformedVolume s => "malformed disk volume " ++ quoted s
  | missingOption option => "missing required option " ++ quoted option
  | size _ => "invalid size"
  | invalid _ => "value violates a configuration rule"

/-- A result with the field named around its cause, should it fail. -/
def within {α : Type} (key : String) (result : Except WireError α) : Except WireError α :=
  result.mapError (inField key)

end WireError

end GuestConfig
