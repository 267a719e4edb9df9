import GuestConfig.Error.Wire
import GuestConfig.Text.Percent
import GuestConfig.Text.Split

/-!
# Public keys

The keys that a guest lets its operators in with.  They are stored as one text, a key to a line,
percent-encoded as a whole.
-/

set_option autoImplicit false

namespace GuestConfig

open Text (lines percentDecode? percentEncode trim)

/-- The public keys of a guest's operators. -/
abbrev PublicKeys : Type :=
  List String

namespace PublicKeys

/-- The key of the stored keys. -/
def key : String :=
  "sshkeys"

/-- The line end between two keys, encoded. -/
def separator : String :=
  "%0A"

/-- The keys as they are stored; blanks around a key do not matter. -/
def text (keys : PublicKeys) : String :=
  String.intercalate separator (keys.map fun k ↦ String.ofList (percentEncode (trim k.toList)))

/-- Reads stored keys; empty lines do not count. -/
def decode (s : String) : Except WireError PublicKeys :=
  match percentDecode? s with
  | none => .error (.invalidOption key s)
  | some decoded =>
    .ok ((((lines decoded.toList).map trim).filter (!·.isEmpty)).map String.ofList)

end PublicKeys

end GuestConfig
