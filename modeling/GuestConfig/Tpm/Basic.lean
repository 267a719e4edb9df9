import GuestConfig.Plan.Step
import GuestConfig.Text.Split
import GuestConfig.Value.Reader

/-!
# The TPM

The state of an emulated TPM is a small volume that is made when the TPM is added.  It is never
rewritten: a TPM can be added or removed, and that is all.

## What is here

* `Tpm` — where the state is kept, and its version.
* `Tpm.validate` — the rules: there is a storage, and the version of an existing TPM stays.
* `Tpm.plan` — the steps.
-/

set_option autoImplicit false

namespace GuestConfig

open Text (splitOnce)

/-- The TPM of a guest. -/
structure Tpm where
  /-- The storage of its state. -/
  storage : String := ""
  /-- The version of the standard. -/
  version : TpmVersion := .v2_0
  /-- Whether it is to be removed. -/
  delete : Bool := false
  deriving DecidableEq, Repr

namespace Tpm

/-- The key of the TPM. -/
def key : String :=
  "tpmstate0"

/-- The volume that is asked for when a TPM is added, and its version. -/
def entries (tpm : Tpm) : List Entry :=
  OptionList.positional (tpm.storage ++ ":1") ++
    OptionList.pair "version" (Token.name tpm.version)

/-- The TPM as a text. -/
def text (tpm : Tpm) : String :=
  (OptionList.mk tpm.entries).text

/-- Reads a stored TPM; one that does not say its version is of the first. -/
def decode (s : String) : Except WireError Tpm := do
  let options := OptionList.parse s
  match options.leading?.bind fun volume ↦ splitOnce ':' volume.toList with
  | none => .error (.malformedVolume s)
  | some (storage, _) =>
    return {
      storage := String.ofList storage
      version := (← options.token? "version").getD .v1_2 }

/-- The TPM of a guest, if it has one. -/
def ofWire (w : Wire) : Except WireError (Option Tpm) :=
  w.decoded? key decode

/-- Checks the TPM that is asked for, on top of the one that is there. -/
def validate (current : Option Tpm) (desired : Tpm) : Except RuleError Unit :=
  if desired.delete then .ok ()
  else do
    require (desired.storage ≠ "") .tpmStorage
    requireOf current fun tpm ↦
      require (tpm.version = desired.version) (.tpmVersion tpm.version desired.version)

/-- The steps for the TPM that is asked for. -/
def plan (current : Option Tpm) (desired : Tpm) : Draft :=
  match desired.delete, current with
  | true, some _ => [.delete key true]
  | false, none => [.set key desired.text true]
  | _, _ => []

/-- Reads a TPM. -/
def ofValue? (d : Dialect) (v : Value) : Option Tpm := do
  let fields ← v.fields? ["storage", "version", "delete"]
  return {
    storage := ← fields.withDefault "storage" "" Value.text?
    version := ← fields.withDefault "version" .v2_0 (Value.token? d)
    delete := ← fields.withDefault "delete" false Value.flag? }

/-- Writes a TPM. -/
def toValue (tpm : Tpm) : Value :=
  .object [
    ("storage", tpm.storage),
    ("version", .ofToken tpm.version),
    ("delete", .bool tpm.delete)]

end Tpm

end GuestConfig
