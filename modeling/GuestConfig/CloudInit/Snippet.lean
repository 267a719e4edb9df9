import GuestConfig.OptionList
import GuestConfig.Text.Split
import GuestConfig.Value.Reader

/-!
# Snippets

The documents that cloud-init reads in the guest are generated, unless a file on a storage takes
the place of one.  There are four such documents, and all four references share one key.

## What is here

* `Snippet` — a reference to a file; one without storage and path clears the reference.
* `CustomSections` — the references for the four documents.
-/

set_option autoImplicit false

namespace GuestConfig

open Text (splitOnce)

/-! ## One reference -/

/-- A file on a storage. -/
structure Snippet where
  /-- The storage. -/
  storage : String := ""
  /-- The path of the file within the storage. -/
  path : String := ""
  deriving DecidableEq, Repr

namespace Snippet

/-- The most bytes in a path. -/
def greatestPathSize : Nat := 256

/-- Whether the reference is to be cleared. -/
def isCleared (snippet : Snippet) : Bool :=
  snippet.storage = "" && snippet.path = ""

/-- A path without the slashes in front. -/
def relative (path : String) : String :=
  String.ofList (path.toList.dropWhile (· == '/'))

/-- A reference as it is stored. -/
def text (snippet : Snippet) : String :=
  snippet.storage ++ ":" ++ relative snippet.path

/-- Reads a stored reference. -/
def decode (s : String) : Except WireError Snippet :=
  match splitOnce ':' s.toList with
  | none => .error (.malformedVolume s)
  | some (storage, path) =>
    .ok ⟨String.ofList storage, "/" ++ relative (String.ofList path)⟩

/-- Checks a reference: it has a storage, and its path is absolute and not too long. -/
def validate (snippet : Snippet) : Except RuleError Unit :=
  if snippet.isCleared then .ok ()
  else do
    require (snippet.storage ≠ "") .snippetStorage
    require (snippet.path.toList.head? = some '/') (.snippetRelative snippet.path)
    require (snippet.path.utf8ByteSize ≤ greatestPathSize) (.snippetLength snippet.path)

/-- Reads a reference from a document. -/
def ofValue? (v : Value) : Option Snippet := do
  let fields ← v.fields? ["storage", "path"]
  return {
    storage := ← fields.withDefault "storage" "" Value.text?
    path := ← fields.withDefault "path" "" Value.text? }

/-- Writes a reference to a document. -/
def toValue (snippet : Snippet) : Value :=
  .object [("storage", snippet.storage), ("path", snippet.path)]

end Snippet

/-! ## All references -/

/-- The files that take the place of generated documents. -/
structure CustomSections where
  /-- The description of the machine. -/
  metadata : Option Snippet := none
  /-- The network. -/
  network : Option Snippet := none
  /-- What the operator asks for. -/
  user : Option Snippet := none
  /-- What the provider asks for. -/
  vendor : Option Snippet := none
  deriving DecidableEq, Repr

namespace CustomSections

/-- The references that result when `sections` is asked for where `base` is in effect. -/
def laidOver (sections base : CustomSections) : CustomSections where
  metadata := sections.metadata.or base.metadata
  network := sections.network.or base.network
  user := sections.user.or base.user
  vendor := sections.vendor.or base.vendor

@[simp] theorem laidOver_self (sections : CustomSections) :
    sections.laidOver sections = sections := by
  simp [laidOver]

/-- A reference as an option, unless it is cleared. -/
def reference (name : String) (snippet : Option Snippet) : List Entry :=
  OptionList.optional name ((snippet.filter (!·.isCleared)).map Snippet.text)

/-- The references as options. -/
def entries (sections : CustomSections) : List Entry :=
  reference "meta" sections.metadata ++
    reference "network" sections.network ++
    reference "user" sections.user ++
    reference "vendor" sections.vendor

/-- The references as they are stored. -/
def text (sections : CustomSections) : String :=
  (OptionList.mk sections.entries).text

/-- A reference in a list of options. -/
def decodeSection (options : OptionList) (name : String) : Except WireError (Option Snippet) :=
  WireError.within name (options.decoded? name Snippet.decode)

/-- The references in a list of options. -/
def ofOptions (options : OptionList) : Except WireError CustomSections := do
  return {
    metadata := ← decodeSection options "meta"
    network := ← decodeSection options "network"
    user := ← decodeSection options "user"
    vendor := ← decodeSection options "vendor" }

/-- Checks the references. -/
def validate (sections : CustomSections) : Except RuleError Unit := do
  requireOf sections.metadata Snippet.validate
  requireOf sections.network Snippet.validate
  requireOf sections.user Snippet.validate
  requireOf sections.vendor Snippet.validate

/-- Reads the references from a document. -/
def ofValue? (v : Value) : Option CustomSections := do
  let fields ← v.fields? ["meta", "network", "user", "vendor"]
  return {
    metadata := ← fields.optional "meta" Snippet.ofValue?
    network := ← fields.optional "network" Snippet.ofValue?
    user := ← fields.optional "user" Snippet.ofValue?
    vendor := ← fields.optional "vendor" Snippet.ofValue? }

/-- Writes the references to a document. -/
def toValue (sections : CustomSections) : Value :=
  .object [
    ("meta", .ofOption Snippet.toValue sections.metadata),
    ("network", .ofOption Snippet.toValue sections.network),
    ("user", .ofOption Snippet.toValue sections.user),
    ("vendor", .ofOption Snippet.toValue sections.vendor)]

end CustomSections

end GuestConfig
