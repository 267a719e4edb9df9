import GuestConfig.Disk.Kind
import GuestConfig.GuestId
import GuestConfig.Text.Natural
import GuestConfig.Text.Split

/-!
# Names of volumes

A storage names the images that it keeps for guests either by path, with the format as an
extension, or by a plain name:

    local:100/vm-100-disk-0.qcow2
    local:101/base-101-disk-0.qcow2/100/vm-100-disk-1.qcow2
    local-lvm:vm-100-disk-0
    local-lvm:base-101-disk-0/vm-100-disk-1

The images of a template are called `base-` instead of `vm-`.  An image that was cloned from such
a base image without copying it names the base image in front of itself.

## What is here

* `Volume` — the parts of a name.
* `Volume.parse?`, `Volume.text` — the two directions.
* `ImageName.read?` — one image of a name.
-/

set_option autoImplicit false

namespace GuestConfig

open Text (dropStart natural splitAt splitOn splitOnce)

/-- An image that another one is a clone of. -/
structure BaseImage where
  /-- The guest that it belongs to. -/
  guest : GuestId
  /-- Its number among the images of that guest. -/
  diskId : UInt32
  deriving DecidableEq, Repr

/-- The name of a volume that holds an image of a guest. -/
structure Volume where
  /-- The storage that keeps the volume. -/
  storage : String
  /-- The guest that the image belongs to. -/
  guest : GuestId
  /-- The number of the image among those of its guest. -/
  diskId : UInt32
  /-- How the storage names its images. -/
  naming : VolumeNaming
  /-- The base image, if the image is a clone. -/
  linked : Option BaseImage
  /-- Whether the image belongs to a template. -/
  isBase : Bool
  /-- The format, as far as the name tells it. -/
  format : Option DiskFormat
  deriving DecidableEq, Repr

/-! ## Images -/

/-- The name of an image without the word that it starts with. -/
structure ImageName where
  /-- The guest that the image belongs to. -/
  guest : GuestId
  /-- The number of the image. -/
  diskId : UInt32
  /-- The format that its extension names. -/
  format : Option DiskFormat
  deriving DecidableEq, Repr

namespace ImageName

/-- Reads the name of an image that starts with a given word. -/
def read? (word : String) (cs : List Char) : Option ImageName := do
  let rest ← dropStart (word ++ "-").toList cs
  let (guest, rest) ← splitAt "-disk-".toList rest
  let (diskId, format) ←
    match splitOnce '.' rest with
    | some (diskId, extension) =>
      (Token.ofName? (String.ofList extension)).map fun format ↦ (diskId, some format)
    | none => some (rest, none)
  let number : UInt32 ← Text.word? guest
  return {
    guest := ← (GuestId.ofNat number.toNat).toOption
    diskId := ← Text.word? diskId
    format := format }

/-- Reads the name of an image of a guest or of a template, and says which. -/
def readOwn? (cs : List Char) : Option (ImageName × Bool) :=
  match read? "vm" cs with
  | some image => some (image, false)
  | none => (read? "base" cs).map fun image ↦ (image, true)

/-- Whether a directory is that of the guest of an image. -/
def isIn (image : ImageName) (directory : List Char) : Bool :=
  (Text.word? directory : Option UInt32).any fun n ↦ n.toNat == image.guest.toNat

/-- An image as the base of another. -/
def toBase (image : ImageName) : BaseImage :=
  ⟨image.guest, image.diskId⟩

/-- Writes the name of an image. -/
def text (word : String) (guest : GuestId) (diskId : UInt32) (format : Option DiskFormat) :
    String :=
  word ++ "-" ++ guest.text ++ "-disk-" ++ Word.text diskId ++
    (match format with
      | some format => "." ++ Token.name format
      | none => "")

end ImageName

/-! ## Volumes -/

namespace Volume

/-- The volume of an image. -/
def ofImage (storage : List Char) (naming : VolumeNaming) (image : ImageName)
    (linked : Option ImageName) (isBase : Bool) : Volume where
  storage := String.ofList storage
  guest := image.guest
  diskId := image.diskId
  naming := naming
  linked := linked.map ImageName.toBase
  isBase := isBase
  format := image.format

/-- Reads the path of a volume within its storage.  A path has the guest in front of each image,
and the extension of the image is not left out. -/
def readPath? (storage : List Char) : List (List Char) → Option Volume
  | [image] => do
    let (image, isBase) ← ImageName.readOwn? image
    some (ofImage storage .volume image none isBase)
  | [first, image] =>
    if (dropStart "base-".toList first).isSome then do
      let base ← ImageName.read? "base" first
      let image ← ImageName.read? "vm" image
      some (ofImage storage .volume image (some base) false)
    else do
      let (image, isBase) ← ImageName.readOwn? image
      if image.isIn first && image.format.isSome then
        some (ofImage storage .file image none isBase)
      else none
  | [baseDirectory, base, directory, image] => do
    let base ← ImageName.read? "base" base
    let image ← ImageName.read? "vm" image
    if base.isIn baseDirectory && image.isIn directory && image.format.isSome then
      some (ofImage storage .file image (some base) false)
    else none
  | _ => none

/-- Reads the name of a volume. -/
def parse? (s : String) : Option Volume := do
  let (storage, path) ← splitOnce ':' s.toList
  readPath? storage (splitOn '/' path)

/-- The word that the name of an image starts with. -/
def word (v : Volume) : String :=
  if v.isBase then "base" else "vm"

/-- Writes the path of a volume within its storage.  In a path a format that is not known is
written as a raw one. -/
def path (v : Volume) : String :=
  match v.naming with
  | .file =>
    let format := some (v.format.getD .raw)
    (match v.linked with
      | some base =>
        base.guest.text ++ "/" ++ ImageName.text "base" base.guest base.diskId format ++ "/"
      | none => "") ++
      v.guest.text ++ "/" ++ ImageName.text v.word v.guest v.diskId format
  | .volume =>
    (match v.linked with
      | some base => ImageName.text "base" base.guest base.diskId none ++ "/"
      | none => "") ++
      ImageName.text v.word v.guest v.diskId none

/-- Writes the name of a volume. -/
def text (v : Volume) : String :=
  v.storage ++ ":" ++ v.path

end Volume

end GuestConfig
