import GuestConfig.OptionList
import GuestConfig.Text.Split
import GuestConfig.Unit.Size
import GuestConfig.Value.Reader

/-!
# Removable media

What a CD-ROM drive holds: nothing, an image from a storage, or what lies in the drive of the host.

## What is here

* `IsoImage` — an image.  Its size is what the API reports and plays no part in comparisons.
* `CdRom` — the contents of a drive; `CdRom.entries` writes them and `CdRom.ofVolume` reads them.
* `CdRom.sameMedia` — whether two drives hold the same.
-/

set_option autoImplicit false

namespace GuestConfig

open Text (dropStart splitOnce)

/-! ## Images -/

/-- An image of a CD-ROM on a storage. -/
structure IsoImage where
  /-- The storage that keeps it. -/
  storage : String
  /-- Its file name. -/
  file : String
  /-- Its size in kibibytes, if the API reported it. -/
  size : Option UInt64 := none
  deriving DecidableEq, Repr

namespace IsoImage

/-- Whether two images are the same file. -/
def sameFile (a b : IsoImage) : Bool :=
  a.storage = b.storage && a.file = b.file

/-- The name of an image: its storage, and its file in the directory for images. -/
def volume (image : IsoImage) : String :=
  image.storage ++ ":iso/" ++ image.file

/-- The size in a list of options. -/
def size? (options : OptionList) : Except WireError (Option UInt64) :=
  options.decoded? "size" fun s ↦ (parseSize s).mapError .size

/-- The image with a given name. -/
def ofVolume (volume : String) (options : OptionList) : Except WireError IsoImage := do
  match splitOnce ':' volume.toList with
  | none => .error (.malformedVolume volume)
  | some (storage, path) =>
    match dropStart "iso/".toList path with
    | none => .error (.malformedVolume volume)
    | some file =>
      return {
        storage := String.ofList storage
        file := String.ofList file
        size := ← size? options }

/-- Checks that an image has a storage and a file. -/
def validate (drive : String) (image : IsoImage) : Except RuleError Unit := do
  require (image.storage ≠ "") (.isoStorage drive)
  require (image.file ≠ "") (.isoFile drive)

/-- Reads an image. -/
def ofValue? (v : Value) : Option IsoImage := do
  let fields ← v.fields? ["storage", "file", "size_kib"]
  return {
    storage := ← fields.required "storage" Value.text?
    file := ← fields.required "file" Value.text?
    size := ← fields.optional "size_kib" Value.word? }

/-- Writes an image. -/
def toValue (image : IsoImage) : Value :=
  .object [
    ("storage", image.storage),
    ("file", image.file),
    ("size_kib", .ofOption .ofWord image.size)]

end IsoImage

/-! ## Drives -/

/-- What a CD-ROM drive holds. -/
inductive CdRom where
  /-- Nothing. -/
  | empty
  /-- An image. -/
  | iso (image : IsoImage)
  /-- What lies in the drive of the host. -/
  | physical
  deriving DecidableEq, Repr

namespace CdRom

/-- The contents of a drive by name. -/
def volume : CdRom → String
  | empty => "none"
  | iso image => image.volume
  | physical => "cdrom"

/-- The size of what a drive holds, if it is known. -/
def size? : CdRom → Option UInt64
  | iso image => image.size
  | _ => none

/-- A drive as options. -/
def entries (cdrom : CdRom) : List Entry :=
  OptionList.positional cdrom.volume ++
    OptionList.pair "media" "cdrom" ++
    OptionList.optional "size" (cdrom.size?.map formatSize)

/-- A drive as it is stored. -/
def text (cdrom : CdRom) : String :=
  (OptionList.mk cdrom.entries).text

/-- The drive that holds a volume. -/
def ofVolume (volume : String) (options : OptionList) : Except WireError CdRom :=
  if volume = "none" then .ok empty
  else if volume = "cdrom" then .ok physical
  else (IsoImage.ofVolume volume options).map iso

/-- Whether two drives hold the same. -/
def sameMedia : CdRom → CdRom → Bool
  | iso a, iso b => a.sameFile b
  | a, b => a = b

@[simp] theorem sameMedia_self (cdrom : CdRom) : cdrom.sameMedia cdrom = true := by
  cases cdrom <;> simp [sameMedia, IsoImage.sameFile]

/-- Reads a drive. -/
def ofValue? (d : Dialect) (v : Value) : Option CdRom := do
  match ← v.tagged? d "media" "image" with
  | ("none", content) => if Value.isAbsent content then some empty else none
  | ("iso", some content) => (IsoImage.ofValue? content).map iso
  | ("physical", content) => if Value.isAbsent content then some physical else none
  | _ => none

/-- Writes a drive. -/
def toValue : CdRom → Value
  | empty => .ofTag "media" "none"
  | iso image => .ofTagged "media" "iso" "image" image.toValue
  | physical => .ofTag "media" "physical"

end CdRom

end GuestConfig
