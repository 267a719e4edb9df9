import GuestConfig.Disk.Volume
import GuestConfig.Proofs.Text.Number

/-!
# Names of volumes read back

The name of a volume is written from its parts and read back into them.  A name does not tell
everything: a plain name has no format, and a path always has one.  What is read back is the volume
with the format that its name tells, and all other parts survive.

## What is here

* `ImageName.read?_text` — the name of one image.
* `Volume.IsNameable` — the volumes that a storage can name: the storage has no colon in its name,
  and a clone is no base image.
* `Volume.parse?_text` — **the name of a volume reads back.**
* `Volume.ReadsPath` and `Volume.readsPath_of_readPath?` — the forms of the paths that are read.
* `Volume.isNameable_of_parse?` — what was read is nameable.
* `Volume.parse?_text_eq_some_iff` — **exactly which volumes their names stand for.**
-/

set_option autoImplicit false

namespace GuestConfig

open Text (digits dropStart dropStart_append not_mem_digits splitAt splitAt_append splitOn splitOnce
  splitOnce_append splitOnce_eq_none_iff splitOnce_eq_some_iff word?)

/-! ## Numbers in names -/

theorem GuestId.toList_text (id : GuestId) : id.text.toList = digits id.toNat :=
  Text.toList_natural _

/-- The number of a guest fits 32 bits and is read back. -/
theorem GuestId.exists_word?_digits (id : GuestId) :
    ∃ number : UInt32, word? (digits id.toNat) = some number ∧ number.toNat = id.toNat := by
  have hlt : id.toNat < 2 ^ 32 := Nat.lt_of_le_of_lt id.le_greatest (by decide)
  have hnat : (UInt32.ofNat id.toNat).toNat = id.toNat := UInt32.toNat_ofNat_of_lt' hlt
  refine ⟨UInt32.ofNat id.toNat, ?_, hnat⟩
  have hread := Text.word?_digits (UInt32.ofNat id.toNat)
  rwa [show Word.toNat (UInt32.ofNat id.toNat) = id.toNat from hnat] at hread

/-! ## Images -/

namespace ImageName

/-- The extension of an image with a format. -/
def extension : Option DiskFormat → List Char
  | some format => '.' :: (Token.name format).toList
  | none => []

theorem toList_text (word : String) (guest : GuestId) (diskId : UInt32)
    (format : Option DiskFormat) :
    (text word guest diskId format).toList =
      (word ++ "-").toList ++ (digits guest.toNat ++ "-disk-".toList ++
        (digits (Word.toNat diskId) ++ extension format)) := by
  cases format <;>
    simp [text, extension, GuestId.toList_text, Word.toList_text, List.append_assoc]

/-- **The name of an image reads back.** -/
theorem read?_text (word : String) (guest : GuestId) (diskId : UInt32)
    (format : Option DiskFormat) :
    read? word (text word guest diskId format).toList = some ⟨guest, diskId, format⟩ := by
  have hsplit (rest : List Char) : splitAt "-disk-".toList
      (digits guest.toNat ++ "-disk-".toList ++ rest) = some (digits guest.toNat, rest) :=
    splitAt_append rest (not_mem_digits (by decide) _)
  have hid : (word? (digits (Word.toNat diskId)) : Option UInt32) = some diskId :=
    Text.word?_digits diskId
  obtain ⟨number, hnumber, hguest⟩ := guest.exists_word?_digits
  have hofNat : (GuestId.ofNat number.toNat).toOption = some guest := by
    rw [hguest, GuestId.ofNat_toNat]
    rfl
  rw [read?, toList_text, dropStart_append, Option.bind_eq_bind, Option.bind_some, hsplit]
  cases format with
  | none =>
    have hdot : splitOnce '.' (digits (Word.toNat diskId)) = none :=
      splitOnce_eq_none_iff.2 (not_mem_digits (by decide) _)
    simp [hdot, extension, hnumber, hofNat, hid]
  | some format =>
    have hdot : splitOnce '.' (digits (Word.toNat diskId) ++ extension (some format)) =
        some (digits (Word.toNat diskId), (Token.name format).toList) :=
      splitOnce_append _ (not_mem_digits (by decide) _)
    simp [hdot, hnumber, hofNat, hid]

/-- The name of a base image does not begin like that of another one. -/
theorem read?_vm_text_base (guest : GuestId) (diskId : UInt32) (format : Option DiskFormat) :
    read? "vm" (text "base" guest diskId format).toList = none := by
  rw [read?, toList_text]
  rfl

/-- Whether an image belongs to a template can be read off its name. -/
theorem readOwn?_text (isBase : Bool) (guest : GuestId) (diskId : UInt32)
    (format : Option DiskFormat) :
    readOwn? (text (if isBase then "base" else "vm") guest diskId format).toList =
      some (⟨guest, diskId, format⟩, isBase) := by
  cases isBase with
  | false => simp [readOwn?, read?_text]
  | true => simp [readOwn?, read?_text, read?_vm_text_base]

theorem not_mem_extension {c : Char} (format : Option DiskFormat)
    (h : c ≠ '.' ∧ c.isAlphanum = false) : c ∉ extension format := by
  obtain ⟨hdot, hword⟩ := h
  cases format with
  | none => simp [extension]
  | some format =>
    have hall : (Token.name format).toList.all Char.isAlphanum = true := by
      cases format <;> decide
    intro hc
    rcases List.mem_cons.1 hc with hc | hc
    · exact hdot hc
    · simp [List.all_eq_true.1 hall c hc] at hword

end ImageName

/-! ## Volumes -/

namespace Volume

/-- The volumes that a storage can name: the name of the storage has no colon, and no clone is a
base image at the same time. -/
structure IsNameable (v : Volume) : Prop where
  storage : ':' ∉ v.storage.toList
  linked : v.linked.isSome → v.isBase = false

/-- The format that the name of a volume tells. -/
def namedFormat (v : Volume) : Option DiskFormat :=
  match v.naming with
  | .file => some (v.format.getD .raw)
  | .volume => none

/-- The name of the image of a volume. -/
def imageText (v : Volume) : List Char :=
  (ImageName.text v.word v.guest v.diskId v.namedFormat).toList

/-- The name of the base image of a volume. -/
def baseText (v : Volume) (base : BaseImage) : List Char :=
  (ImageName.text "base" base.guest base.diskId v.namedFormat).toList

/-- The path of a volume between slashes. -/
def pieces (v : Volume) : List (List Char) :=
  match v.naming with
  | .file =>
    (match v.linked with
      | some base => [digits base.guest.toNat, v.baseText base]
      | none => []) ++ [digits v.guest.toNat, v.imageText]
  | .volume =>
    (match v.linked with
      | some base => [v.baseText base]
      | none => []) ++ [v.imageText]

theorem toList_path (v : Volume) : v.path.toList = ['/'].intercalate v.pieces := by
  cases hnaming : v.naming <;> cases hlinked : v.linked <;>
    simp [path, pieces, hnaming, hlinked, imageText, baseText, namedFormat, GuestId.toList_text,
      List.intercalate_cons_cons]

theorem slash_not_mem_text {word : String} (hword : '/' ∉ word.toList) (guest : GuestId)
    (diskId : UInt32) (format : Option DiskFormat) :
    '/' ∉ (ImageName.text word guest diskId format).toList := by
  rw [ImageName.toList_text]
  simp [hword, not_mem_digits, ImageName.not_mem_extension]

theorem slash_not_mem_pieces (v : Volume) : ∀ piece ∈ v.pieces, '/' ∉ piece := by
  have himage : '/' ∉ v.imageText := by
    refine slash_not_mem_text ?_ _ _ _
    unfold word
    split <;> decide
  have hbase (base : BaseImage) : '/' ∉ v.baseText base :=
    slash_not_mem_text (by decide) _ _ _
  have hdigits (n : Nat) : '/' ∉ digits n := not_mem_digits (by decide) n
  cases hnaming : v.naming <;> cases hlinked : v.linked <;>
    simp [pieces, hnaming, hlinked, himage, hbase, hdigits]

/-- The characters that the path of a volume is made of. -/
def isPathChar (c : Char) : Bool :=
  c.isAlphanum || c == '-' || c == '.' || c == '/'

theorem isPathChar_of_mem_digits {n : Nat} {c : Char} (h : c ∈ digits n) : isPathChar c = true := by
  have hdigit : c.isDigit = true := Text.isDigit_of_mem_digits h
  simp [isPathChar, Char.isAlphanum, hdigit]

theorem isPathChar_of_mem_text {word : String} (hword : word.toList.all isPathChar = true)
    (guest : GuestId) (diskId : UInt32) (format : Option DiskFormat) :
    (ImageName.text word guest diskId format).toList.all isPathChar = true := by
  have hextension : (ImageName.extension format).all isPathChar = true := by
    cases format with
    | none => rfl
    | some format => cases format <;> decide
  rw [ImageName.toList_text]
  simp only [List.all_append, Bool.and_eq_true]
  refine ⟨?_, ⟨?_, by decide⟩, ?_, hextension⟩
  · simpa using ⟨List.all_eq_true.1 hword, by decide⟩
  · exact List.all_eq_true.2 fun c hc ↦ isPathChar_of_mem_digits hc
  · exact List.all_eq_true.2 fun c hc ↦ isPathChar_of_mem_digits hc

/-- The path of a volume is made of letters, digits, dashes, dots and slashes. -/
theorem all_isPathChar_path (v : Volume) : v.path.toList.all isPathChar = true := by
  have himage : v.imageText.all isPathChar = true := by
    refine isPathChar_of_mem_text ?_ _ _ _
    unfold word
    split <;> decide
  have hbase (base : BaseImage) : (v.baseText base).all isPathChar = true :=
    isPathChar_of_mem_text (by decide) _ _ _
  have hdigits (n : Nat) : (digits n).all isPathChar = true :=
    List.all_eq_true.2 fun c hc ↦ isPathChar_of_mem_digits hc
  rw [toList_path]
  cases hnaming : v.naming <;> cases hlinked : v.linked <;>
    simp only [pieces, hnaming, hlinked, List.nil_append, List.cons_append,
      List.intercalate_cons_cons, List.intercalate_singleton, List.all_append, himage, hbase,
      hdigits, Bool.and_true, Bool.true_and] <;>
    rfl

/-- The directory of a guest is not taken for a base image. -/
theorem dropStart_base_digits (n : Nat) : dropStart "base-".toList (digits n) = none := by
  obtain ⟨d, rest, hdigits⟩ := List.exists_cons_of_ne_nil (Text.digits_ne_nil n)
  have hd : 'b' ≠ d := by
    rintro rfl
    exact not_mem_digits (by decide) n (hdigits ▸ List.mem_cons_self)
  rw [hdigits]
  exact if_neg hd

theorem isIn_digits (image : ImageName) : image.isIn (digits image.guest.toNat) = true := by
  obtain ⟨number, hnumber, hguest⟩ := image.guest.exists_word?_digits
  simp [ImageName.isIn, hnumber, hguest]

theorem readPath?_pieces {v : Volume} (h : v.linked.isSome → v.isBase = false)
    (storage : List Char) :
    readPath? storage v.pieces =
      some { v with storage := String.ofList storage, format := v.namedFormat } := by
  have hown : ImageName.readOwn? v.imageText =
      some (⟨v.guest, v.diskId, v.namedFormat⟩, v.isBase) := ImageName.readOwn?_text _ _ _ _
  have hbase (base : BaseImage) : ImageName.read? "base" (v.baseText base) =
      some ⟨base.guest, base.diskId, v.namedFormat⟩ := ImageName.read?_text _ _ _ _
  have hvm (hfalse : v.isBase = false) : ImageName.read? "vm" v.imageText =
      some ⟨v.guest, v.diskId, v.namedFormat⟩ := by
    rw [imageText, word, hfalse]
    exact ImageName.read?_text _ _ _ _
  have hstart (base : BaseImage) : (dropStart "base-".toList (v.baseText base)).isSome = true := by
    rw [baseText, ImageName.toList_text]
    rfl
  have hin : (ImageName.mk v.guest v.diskId v.namedFormat).isIn (digits v.guest.toNat) = true :=
    isIn_digits _
  have hbaseIn (base : BaseImage) : (ImageName.mk base.guest base.diskId v.namedFormat).isIn
      (digits base.guest.toNat) = true := isIn_digits _
  cases hnaming : v.naming with
  | volume =>
    cases hlinked : v.linked with
    | none => simp [pieces, hnaming, hlinked, readPath?, hown, ofImage]
    | some base =>
      have hfalse := h (by rw [hlinked]; rfl)
      have hpieces : v.pieces = [v.baseText base, v.imageText] := by
        simp [pieces, hnaming, hlinked]
      rw [hpieces, readPath?, if_pos (hstart base), hbase, hvm hfalse]
      simp [ofImage, ImageName.toBase, hfalse]
  | file =>
    have hformat : v.namedFormat.isSome = true := by rw [namedFormat, hnaming]; rfl
    cases hlinked : v.linked with
    | none =>
      have hpieces : v.pieces = [digits v.guest.toNat, v.imageText] := by
        simp [pieces, hnaming, hlinked]
      rw [hpieces, readPath?, dropStart_base_digits, if_neg nofun, hown]
      simp [hin, hformat, ofImage]
    | some base =>
      have hfalse := h (by rw [hlinked]; rfl)
      simp [pieces, hnaming, hlinked, readPath?, hbase, hvm hfalse, hin, hbaseIn, hformat, hfalse,
        ofImage, ImageName.toBase]

theorem toList_text (v : Volume) :
    v.text.toList = v.storage.toList ++ ':' :: v.path.toList := by
  simp [text, List.append_assoc]

theorem splitOn_path (v : Volume) : splitOn '/' v.path.toList = v.pieces := by
  have hpieces : v.pieces ≠ [] := by
    cases hnaming : v.naming <;> simp [pieces, hnaming]
  rw [toList_path, Text.splitOn_intercalate hpieces v.slash_not_mem_pieces]

/-- **The name of a volume reads back**, with the format that it tells. -/
theorem parse?_text {v : Volume} (h : v.IsNameable) :
    parse? v.text = some { v with format := v.namedFormat } := by
  rw [parse?, toList_text, splitOnce_append _ h.storage, Option.bind_eq_bind, Option.bind_some]
  dsimp only
  rw [splitOn_path, readPath?_pieces h.linked, String.ofList_toList]

/-- The four forms of a path, and the volumes that they are read as. -/
inductive ReadsPath (storage : List Char) : List (List Char) → Volume → Prop
  /-- An image with a plain name. -/
  | image {piece : List Char} {image : ImageName} {isBase : Bool}
      (hread : ImageName.readOwn? piece = some (image, isBase)) :
      ReadsPath storage [piece] (ofImage storage .volume image none isBase)
  /-- A clone with a plain name, behind its base image. -/
  | clone {basePiece piece : List Char} {base image : ImageName}
      (hbase : ImageName.read? "base" basePiece = some base)
      (hread : ImageName.read? "vm" piece = some image) :
      ReadsPath storage [basePiece, piece] (ofImage storage .volume image (some base) false)
  /-- An image in the directory of its guest. -/
  | file {directory piece : List Char} {image : ImageName} {isBase : Bool}
      (hread : ImageName.readOwn? piece = some (image, isBase))
      (hin : image.isIn directory = true) (hformat : image.format.isSome = true) :
      ReadsPath storage [directory, piece] (ofImage storage .file image none isBase)
  /-- A clone in the directory of its guest, behind its base image in the directory of its own. -/
  | fileClone {baseDirectory basePiece directory piece : List Char} {base image : ImageName}
      (hbase : ImageName.read? "base" basePiece = some base)
      (hread : ImageName.read? "vm" piece = some image)
      (hbaseIn : base.isIn baseDirectory = true) (hin : image.isIn directory = true)
      (hformat : image.format.isSome = true) :
      ReadsPath storage [baseDirectory, basePiece, directory, piece]
        (ofImage storage .file image (some base) false)

/-- **Every path that is read has one of the four forms.** -/
theorem readsPath_of_readPath? {storage : List Char} {path : List (List Char)} {v : Volume}
    (h : readPath? storage path = some v) : ReadsPath storage path v := by
  unfold readPath? at h
  split at h
  · obtain ⟨⟨image, isBase⟩, hread, h⟩ := Option.bind_eq_some_iff.1 h
    cases h
    exact .image hread
  · split at h
    · obtain ⟨base, hbase, h⟩ := Option.bind_eq_some_iff.1 h
      obtain ⟨image, hread, h⟩ := Option.bind_eq_some_iff.1 h
      cases h
      exact .clone hbase hread
    · obtain ⟨⟨image, isBase⟩, hread, h⟩ := Option.bind_eq_some_iff.1 h
      dsimp only at h
      split at h
      · next hboth =>
        obtain ⟨hin, hformat⟩ := Bool.and_eq_true_iff.1 hboth
        cases h
        exact .file hread hin hformat
      · cases h
  · obtain ⟨base, hbase, h⟩ := Option.bind_eq_some_iff.1 h
    obtain ⟨image, hread, h⟩ := Option.bind_eq_some_iff.1 h
    split at h
    · next hall =>
      simp only [Bool.and_eq_true] at hall
      obtain ⟨⟨hbaseIn, hin⟩, hformat⟩ := hall
      cases h
      exact .fileClone hbase hread hbaseIn hin hformat
    · cases h
  · cases h

/-- What was read from a path keeps the storage, no clone is a base image, and a path in which the
guest has a directory tells the format. -/
theorem parts_of_readPath? {storage : List Char} {path : List (List Char)} {v : Volume}
    (h : readPath? storage path = some v) :
    v.storage = String.ofList storage ∧ (v.linked.isSome → v.isBase = false) ∧
      (v.naming = .file → v.format.isSome) := by
  cases readsPath_of_readPath? h with
  | image => exact ⟨rfl, nofun, nofun⟩
  | clone => exact ⟨rfl, fun _ ↦ rfl, nofun⟩
  | file _ _ hformat => exact ⟨rfl, nofun, fun _ ↦ hformat⟩
  | fileClone _ _ _ _ hformat => exact ⟨rfl, fun _ ↦ rfl, fun _ ↦ hformat⟩

theorem readPath?_of_parse? {s : String} {v : Volume} (h : parse? s = some v) :
    ∃ storage path, splitOnce ':' s.toList = some (storage, path) ∧
      readPath? storage (splitOn '/' path) = some v := by
  rw [parse?, Option.bind_eq_bind, Option.bind_eq_some_iff] at h
  obtain ⟨⟨storage, path⟩, hsplit, hread⟩ := h
  exact ⟨storage, path, hsplit, hread⟩

/-- **A volume whose name was read can be named.** -/
theorem isNameable_of_parse? {s : String} {v : Volume} (h : parse? s = some v) : v.IsNameable := by
  obtain ⟨storage, path, hsplit, hread⟩ := readPath?_of_parse? h
  obtain ⟨hstorage, hlinked, -⟩ := parts_of_readPath? hread
  refine ⟨?_, hlinked⟩
  rw [hstorage, String.toList_ofList]
  exact (splitOnce_eq_some_iff.1 hsplit).2

theorem format_of_parse? {s : String} {v : Volume} (h : parse? s = some v)
    (hfile : v.naming = .file) : v.format.isSome = true := by
  obtain ⟨storage, path, -, hread⟩ := readPath?_of_parse? h
  exact (parts_of_readPath? hread).2.2 hfile

/-- The name of a volume tells its format exactly if there is one where names are paths. -/
theorem namedFormat_eq_format_iff {v : Volume} :
    v.namedFormat = v.format ↔ (v.format.isSome ↔ v.naming = .file) := by
  cases hnaming : v.naming <;> cases hformat : v.format <;> simp [namedFormat, hnaming, hformat]

/-- **The volumes that their names stand for**, without any part that is lost. -/
theorem parse?_text_eq_some_iff {v : Volume} :
    parse? v.text = some v ↔
      ':' ∉ v.storage.toList ∧ (v.linked.isSome → v.isBase = false) ∧
        (v.format.isSome ↔ v.naming = .file) := by
  constructor
  · intro h
    have hnameable := isNameable_of_parse? h
    have hformat : v.namedFormat = v.format :=
      congrArg Volume.format (Option.some.inj ((parse?_text hnameable).symm.trans h))
    exact ⟨hnameable.storage, hnameable.linked, namedFormat_eq_format_iff.1 hformat⟩
  · rintro ⟨hstorage, hlinked, hformat⟩
    rw [parse?_text ⟨hstorage, hlinked⟩, namedFormat_eq_format_iff.2 hformat]

end Volume

end GuestConfig
