import GuestConfig.Proofs.Disk.Decode
import GuestConfig.Proofs.Disk.Volume

/-!
# Names of volumes that are written as they were read

A disk is known by the name of its volume, so that a name that is read in its parts should be
written from them as it was.  A name that is not understood is safe, for it is kept as it is.  One
that is understood can lose something, since it is read more generously than it is written: a number
may have a sign or zeros in front, a plain name may have an extension, and the two images in the
path of a clone may have different ones.  None of this is told by the parts, and nothing else is
lost.

## What is here

* `Volume.HasPlainNumbers` — numbers that are spelled the way numbers are written.
* `Volume.extensionOf` — the extension of an image as it is spelled.
* `Volume.eq_text_iff_of_read?`, `Volume.eq_digits_iff_of_isIn` — when an image and a directory are
  written as they were read.
* `Volume.text_eq_iff_of_parse?` — **a name that is understood is written as it was read exactly if
  it is spelled plainly**, and `Volume.parse?_loses_extension`, one that is not.
-/

set_option autoImplicit false

namespace GuestConfig

open Text (digits dropStart_eq_some_iff eq_append_of_splitAt natural? natural?_digits
  natural?_eq_some_iff split splitOn splitOnce splitOnce_eq_some_iff split_append
  split_eq_singleton unsigned word?)

/-! ## Numbers -/

namespace Volume

/-- The characters that divide the path of a volume into words and numbers. -/
def isMark (c : Char) : Bool :=
  c == '/' || c == '-' || c == '.'

/-- Every number between marks is spelled the way numbers are written: without a sign, and without
zeros in front. -/
def HasPlainNumbers (cs : List Char) : Prop :=
  ∀ part ∈ split isMark cs, ∀ n ∈ natural? part, part = digits n

instance (cs : List Char) : Decidable (HasPlainNumbers cs) :=
  inferInstanceAs (Decidable (∀ part ∈ split isMark cs, ∀ n ∈ natural? part, part = digits n))

theorem hasPlainNumbers_append {mark : Char} {before after : List Char}
    (hmark : isMark mark = true) :
    HasPlainNumbers (before ++ mark :: after) ↔ HasPlainNumbers before ∧ HasPlainNumbers after := by
  simp only [HasPlainNumbers, split_append _ _ hmark, List.mem_append, or_imp, forall_and]

theorem hasPlainNumbers_iff_pieces (path : List Char) :
    HasPlainNumbers path ↔ ∀ piece ∈ splitOn '/' path, HasPlainNumbers piece := by
  have hjoined (pieces : List (List Char)) :
      HasPlainNumbers (['/'].intercalate pieces) ↔ ∀ piece ∈ pieces, HasPlainNumbers piece := by
    induction pieces with
    | nil => simp [HasPlainNumbers, split, natural?, unsigned]
    | cons piece rest ih =>
      cases rest with
      | nil => simp
      | cons next rest =>
        rw [List.intercalate_cons_cons, List.append_assoc, List.singleton_append,
          hasPlainNumbers_append (by decide), ih, ← List.forall_mem_cons]
  rw [← hjoined, Text.intercalate_splitOn]

theorem eq_plus_or_isDigit_of_natural? {cs : List Char} {n : Nat} (h : natural? cs = some n)
    {c : Char} (hc : c ∈ cs) : c = '+' ∨ c.isDigit = true := by
  obtain ⟨-, hdigits, -⟩ := natural?_eq_some_iff.1 h
  have hall := List.all_eq_true.1 hdigits
  unfold unsigned at hall
  split at hall
  · rcases List.mem_cons.1 hc with hc | hc
    · exact .inl hc
    · exact .inr (hall c hc)
  · exact .inr (hall c hc)

theorem not_mem_of_natural? {cs : List Char} {n : Nat} (h : natural? cs = some n) {mark : Char}
    (hmark : isMark mark = true) : mark ∉ cs := fun hc ↦ by
  rcases eq_plus_or_isDigit_of_natural? h hc with rfl | hdigit
  · exact absurd hmark (by decide)
  · have hne (c : Char) (hc : c.isDigit = false) : mark ≠ c := by
      rintro rfl
      exact Bool.false_ne_true (hc.symm.trans hdigit)
    simp [isMark, hne '/' (by decide), hne '-' (by decide), hne '.' (by decide)] at hmark

/-- A number that stands alone is spelled plainly if it is written in its digits. -/
theorem hasPlainNumbers_iff_of_natural? {cs : List Char} {n : Nat} (h : natural? cs = some n) :
    HasPlainNumbers cs ↔ cs = digits n := by
  have hsplit : split isMark cs = [cs] :=
    split_eq_singleton fun c hc ↦ Bool.eq_false_iff.2 fun hmark ↦ not_mem_of_natural? h hmark hc
  simp [HasPlainNumbers, hsplit, h]

/-! ## Extensions -/

/-- The extension of an image as it is spelled, with its point: all that stands behind the first
point. -/
def extensionOf (image : List Char) : List Char :=
  image.dropWhile (· ≠ '.')

end Volume

namespace ImageName

open Volume (HasPlainNumbers extensionOf hasPlainNumbers_append hasPlainNumbers_iff_of_natural?
  not_mem_of_natural?)

/-- The name of an image whose numbers are spelled in a given way. -/
def spelled (word : String) (guest diskId : List Char) (format : Option DiskFormat) : List Char :=
  (word ++ "-").toList ++ (guest ++ "-disk-".toList ++ (diskId ++ extension format))

variable {word : String} {cs guest diskId : List Char} {n m : Nat}

/-- The parts of an image are those that its name was read from. -/
theorem parts_of_read {format : Option DiskFormat} {image : ImageName}
    (h : (do
      let number : UInt32 ← word? guest
      return {
        guest := ← (GuestId.ofNat number.toNat).toOption
        diskId := ← word? diskId
        format := format }) = some image) :
    natural? guest = some image.guest.toNat ∧ natural? diskId = some (Word.toNat image.diskId) ∧
      image.format = format := by
  obtain ⟨number, hnumber, h⟩ := Option.bind_eq_some_iff.1 h
  obtain ⟨id, hid, h⟩ := Option.bind_eq_some_iff.1 h
  obtain ⟨disk, hdisk, h⟩ := Option.bind_eq_some_iff.1 h
  obtain rfl := Option.some.inj h
  obtain ⟨k, hk, hnumber⟩ := Option.bind_eq_some_iff.1 hnumber
  obtain ⟨l, hl, hdisk⟩ := Option.bind_eq_some_iff.1 hdisk
  have hid : id.toNat = number.toNat := by
    rw [toOption_eq_some_iff, GuestId.ofNat] at hid
    split at hid
    · cases hid
      rfl
    · cases hid
  rw [hk, hl, Word.ofNat?_eq_some_iff.1 hdisk, hid]
  exact ⟨congrArg some (Word.ofNat?_eq_some_iff.1 hnumber).symm, rfl, rfl⟩

/-- What the name of an image was read from. -/
theorem exists_spelled_of_read? {image : ImageName} (h : read? word cs = some image) :
    ∃ guest diskId, cs = spelled word guest diskId image.format ∧
      natural? guest = some image.guest.toNat ∧
      natural? diskId = some (Word.toNat image.diskId) := by
  rw [read?] at h
  obtain ⟨rest, hrest, h⟩ := Option.bind_eq_some_iff.1 h
  obtain ⟨⟨guest, tail⟩, htail, h⟩ := Option.bind_eq_some_iff.1 h
  have hcs : cs = (word ++ "-").toList ++ (guest ++ "-disk-".toList ++ tail) := by
    rw [← eq_append_of_splitAt htail]
    exact dropStart_eq_some_iff.1 hrest
  dsimp only at h
  cases hpoint : splitOnce '.' tail with
  | none =>
    rw [hpoint] at h
    obtain ⟨hguest, hdisk, hformat⟩ := parts_of_read h
    refine ⟨guest, tail, ?_, hguest, hdisk⟩
    rw [hcs, spelled, hformat, extension, List.append_nil, List.append_assoc]
  | some pieces =>
    obtain ⟨diskId, ending⟩ := pieces
    rw [hpoint] at h
    obtain ⟨⟨_, _⟩, hending, h⟩ := Option.bind_eq_some_iff.1 h
    obtain ⟨format, hname, hpair⟩ := Option.map_eq_some_iff.1 hending
    obtain ⟨rfl, rfl⟩ := Prod.mk.inj hpair
    obtain ⟨hguest, hdisk, hformat⟩ := parts_of_read h
    have hextension : extension image.format = '.' :: ending := by
      rw [hformat, extension, Token.ofName?_eq_some_iff.1 hname, String.toList_ofList]
    refine ⟨guest, diskId, ?_, hguest, hdisk⟩
    rw [hcs, spelled, hextension, (splitOnce_eq_some_iff.1 hpoint).1, List.append_assoc]

theorem hasPlainNumbers_spelled_iff (hword : HasPlainNumbers word.toList)
    (hguest : natural? guest = some n) (hdisk : natural? diskId = some m)
    (format : Option DiskFormat) :
    HasPlainNumbers (spelled word guest diskId format) ↔ guest = digits n ∧ diskId = digits m := by
  have hextension : HasPlainNumbers (diskId ++ extension format) ↔ HasPlainNumbers diskId := by
    cases format with
    | none => simp [extension]
    | some format =>
      rw [extension, hasPlainNumbers_append (by decide)]
      exact and_iff_left (by cases format <;> decide)
  have hconstant : HasPlainNumbers "disk".toList := by decide
  have hshape : spelled word guest diskId format = word.toList ++ '-' :: (guest ++ '-' ::
      ("disk".toList ++ '-' :: (diskId ++ extension format))) := by
    simp [spelled]
  rw [hshape, hasPlainNumbers_append (by decide), hasPlainNumbers_append (by decide),
    hasPlainNumbers_append (by decide), hextension, hasPlainNumbers_iff_of_natural? hguest,
    hasPlainNumbers_iff_of_natural? hdisk, and_iff_right hword, and_iff_right hconstant]

theorem extensionOf_spelled (hword : '.' ∉ word.toList)
    (hguest : natural? guest = some n) (hdisk : natural? diskId = some m)
    (format : Option DiskFormat) :
    extensionOf (spelled word guest diskId format) = extension format := by
  have hfront : ∀ c ∈ (word ++ "-").toList ++ (guest ++ ("-disk-".toList ++ diskId)), c ≠ '.' := by
    rintro c hc rfl
    have hguest : '.' ∉ guest := not_mem_of_natural? hguest (by decide)
    have hdisk : '.' ∉ diskId := not_mem_of_natural? hdisk (by decide)
    simp [hword, hguest, hdisk] at hc
  have hextension : (extension format).dropWhile (· ≠ '.') = extension format := by
    cases format <;> rfl
  have hshape : spelled word guest diskId format =
      (word ++ "-").toList ++ (guest ++ ("-disk-".toList ++ diskId)) ++ extension format := by
    simp [spelled]
  rw [extensionOf, hshape, List.dropWhile_append_of_pos (by simpa using hfront), hextension]

theorem read?_of_readOwn? {image : ImageName} {isBase : Bool}
    (h : readOwn? cs = some (image, isBase)) :
    read? (if isBase then "base" else "vm") cs = some image := by
  unfold readOwn? at h
  split at h
  · next hread =>
    cases h
    exact hread
  · obtain ⟨_, hread, heq⟩ := Option.map_eq_some_iff.1 h
    cases heq
    exact hread

end ImageName

/-! ## Pieces of a path -/

namespace Volume

open ImageName (exists_spelled_of_read? extension extensionOf_spelled hasPlainNumbers_spelled_iff
  read?_of_readOwn? spelled)

/-- A piece of a path that is spelled the way it is written: its numbers are, and if it is an image,
its extension is that of a format. -/
structure IsPlainPiece (format : Option DiskFormat) (piece : List Char) : Prop where
  numbers : HasPlainNumbers piece
  extensionOf : '-' ∈ piece → extensionOf piece = extension format

/-- **An image is written as it was read exactly if it is spelled plainly.** -/
theorem eq_text_iff_of_read? {word : String} {piece : List Char} {image : ImageName}
    (hword : HasPlainNumbers word.toList) (hpoint : '.' ∉ word.toList)
    (h : ImageName.read? word piece = some image) (format : Option DiskFormat) :
    piece = (ImageName.text word image.guest image.diskId format).toList ↔
      IsPlainPiece format piece := by
  obtain ⟨guest, diskId, rfl, hguest, hdisk⟩ := exists_spelled_of_read? h
  have hnumbers := hasPlainNumbers_spelled_iff hword hguest hdisk image.format
  have hextension := extensionOf_spelled hpoint hguest hdisk image.format
  rw [ImageName.toList_text]
  constructor
  · intro heq
    have hwritten := natural?_digits image.guest.toNat
    have hwritten' := natural?_digits (Word.toNat image.diskId)
    rw [heq]
    exact ⟨(hasPlainNumbers_spelled_iff hword hwritten hwritten' format).2 ⟨rfl, rfl⟩,
      fun _ ↦ extensionOf_spelled hpoint hwritten hwritten' format⟩
  · rintro ⟨hplain, hkept⟩
    obtain ⟨rfl, rfl⟩ := hnumbers.1 hplain
    rw [spelled, ← hextension, hkept (by simp [spelled])]

/-- **A directory is written as it was read exactly if it is spelled plainly.** -/
theorem eq_digits_iff_of_isIn {image : ImageName} {directory : List Char}
    (h : image.isIn directory = true) (format : Option DiskFormat) :
    directory = digits image.guest.toNat ↔ IsPlainPiece format directory := by
  obtain ⟨number, hnumber, heq⟩ := (Option.any_eq_true _ _).1 h
  obtain ⟨n, hn, hword⟩ := Option.bind_eq_some_iff.1 hnumber
  have hguest : n = image.guest.toNat :=
    (Word.ofNat?_eq_some_iff.1 hword).symm.trans (beq_iff_eq.1 heq)
  rw [← hguest, ← hasPlainNumbers_iff_of_natural? hn]
  exact ⟨fun hplain ↦ ⟨hplain, fun hc ↦ absurd hc (not_mem_of_natural? hn (by decide))⟩,
    IsPlainPiece.numbers⟩

/-- A path is written as it was read exactly if its pieces are spelled plainly. -/
theorem eq_pieces_iff_of_readPath? {storage : List Char} {path : List (List Char)} {v : Volume}
    (h : readPath? storage path = some v) :
    path = v.pieces ↔ ∀ piece ∈ path, IsPlainPiece v.namedFormat piece := by
  have hvm {piece : List Char} {image : ImageName} (h : ImageName.read? "vm" piece = some image) :=
    eq_text_iff_of_read? (by decide) (by decide) h v.namedFormat
  have hbase {piece : List Char} {image : ImageName}
      (h : ImageName.read? "base" piece = some image) :=
    eq_text_iff_of_read? (by decide) (by decide) h v.namedFormat
  have hown {piece : List Char} {image : ImageName} {isBase : Bool}
      (h : ImageName.readOwn? piece = some (image, isBase)) :=
    eq_text_iff_of_read? (by cases isBase <;> decide) (by cases isBase <;> decide)
      (read?_of_readOwn? h) v.namedFormat
  have hpair {a b c d : List Char} : [a, b] = [c, d] ↔ a = c ∧ b = d := by simp
  cases readsPath_of_readPath? h with
  | image hread =>
    rw [List.forall_mem_singleton, ← hown hread]
    exact List.singleton_inj
  | clone hbaseRead hread =>
    rw [List.forall_mem_cons, List.forall_mem_singleton, ← hbase hbaseRead, ← hvm hread]
    exact hpair
  | file hread hin =>
    rw [List.forall_mem_cons, List.forall_mem_singleton, ← eq_digits_iff_of_isIn hin,
      ← hown hread]
    exact hpair
  | fileClone hbaseRead hread hbaseIn hin =>
    rw [List.forall_mem_cons, List.forall_mem_cons, List.forall_mem_cons,
      List.forall_mem_singleton, ← eq_digits_iff_of_isIn hbaseIn, ← hbase hbaseRead,
      ← eq_digits_iff_of_isIn hin, ← hvm hread, ← hpair, ← List.cons_eq_cons, ← List.cons_eq_cons]
    exact Iff.rfl

/-! ## Names -/

/-- The path of a volume: what follows the storage in its name. -/
def pathOf (s : String) : List Char :=
  ((splitOnce ':' s.toList).map (·.2)).getD []

/-- The path of a volume is spelled the way it is written: its numbers are, and its images have the
extension of the format where images are named by paths, and none where they have plain names. -/
structure IsSpelledPlainly (v : Volume) (path : List Char) : Prop where
  numbers : HasPlainNumbers path
  extensions : ∀ piece ∈ splitOn '/' path, '-' ∈ piece →
    extensionOf piece = ImageName.extension v.namedFormat

instance (v : Volume) (path : List Char) : Decidable (v.IsSpelledPlainly path) :=
  decidable_of_iff (HasPlainNumbers path ∧ ∀ piece ∈ splitOn '/' path, '-' ∈ piece →
    extensionOf piece = ImageName.extension v.namedFormat)
    ⟨fun h ↦ ⟨h.1, h.2⟩, fun h ↦ ⟨h.1, h.2⟩⟩

theorem isSpelledPlainly_iff_pieces {v : Volume} {path : List Char} :
    v.IsSpelledPlainly path ↔ ∀ piece ∈ splitOn '/' path, IsPlainPiece v.namedFormat piece := by
  constructor
  · rintro ⟨hnumbers, hextensions⟩ piece hpiece
    exact ⟨(hasPlainNumbers_iff_pieces path).1 hnumbers piece hpiece, hextensions piece hpiece⟩
  · exact fun h ↦ ⟨(hasPlainNumbers_iff_pieces path).2 fun piece hpiece ↦ (h piece hpiece).numbers,
      fun piece hpiece ↦ (h piece hpiece).extensionOf⟩

/-- **A name that is understood is written as it was read exactly if it is spelled plainly**, and a
disk keeps the name of its volume as it is exactly if the name is not understood. -/
theorem text_eq_iff_of_parse? (s : String) :
    (∀ v, parse? s = some v → (v.text = s ↔ v.IsSpelledPlainly (pathOf s))) ∧
      ∀ list disk, Disk.ofVolume s list = .ok disk → (disk.volume = some s ↔ parse? s = none) := by
  refine ⟨fun v h ↦ ?_, fun list disk h ↦ ?_⟩
  · obtain ⟨storage, path, hsplit, hread⟩ := readPath?_of_parse? h
    have hstorage : v.storage.toList = storage := by
      rw [(parts_of_readPath? hread).1, String.toList_ofList]
    have hpath : pathOf s = path := by rw [pathOf, hsplit]; rfl
    calc v.text = s
        ↔ v.text.toList = s.toList := String.toList_inj.symm
      _ ↔ v.path.toList = path := by
        rw [toList_text, hstorage, (splitOnce_eq_some_iff.1 hsplit).1, List.append_cancel_left_eq,
          List.cons_inj_right]
      _ ↔ splitOn '/' path = v.pieces := by
        constructor
        · rintro rfl
          exact splitOn_path v
        · intro hpieces
          rw [toList_path, ← hpieces, Text.intercalate_splitOn]
      _ ↔ v.IsSpelledPlainly (pathOf s) := by
        rw [eq_pieces_iff_of_readPath? hread, hpath, isSpelledPlainly_iff_pieces]
  · obtain ⟨size, options, -, -, ⟨v, format, hparse, -, rfl⟩ | ⟨storage, name, format, hparse, -, -,
      rfl⟩⟩ := Disk.ofVolume_eq_ok_iff.1 h
    · simp [hparse, Disk.ofParts]
    · simp [hparse, Disk.verbatim]

/-- The name of a clone is written as it was read, and a disk of an unusual name keeps it. -/
theorem text_eq_iff_of_parse?_clone :
    (∃ v, parse? "local:101/base-101-disk-0.qcow2/100/vm-100-disk-1.qcow2" = some v ∧
      v.text = "local:101/base-101-disk-0.qcow2/100/vm-100-disk-1.qcow2") ∧
    ∃ disk, Disk.ofVolume "local:100/custom.qcow2" ⟨[]⟩ = .ok disk ∧
      disk.volume = some "local:100/custom.qcow2" := by
  have hread : (parse? "local:101/base-101-disk-0.qcow2/100/vm-100-disk-1.qcow2").isSome := by
    decide +kernel
  obtain ⟨v, hv⟩ := Option.isSome_iff_exists.1 hread
  have hplain : ∀ v ∈ parse? "local:101/base-101-disk-0.qcow2/100/vm-100-disk-1.qcow2",
      v.IsSpelledPlainly (pathOf "local:101/base-101-disk-0.qcow2/100/vm-100-disk-1.qcow2") := by
    decide +kernel
  have hdecoded : (Disk.ofVolume "local:100/custom.qcow2" ⟨[]⟩).toOption.isSome := by
    decide +kernel
  obtain ⟨disk, hdisk⟩ := Option.isSome_iff_exists.1 hdecoded
  have hdisk := toOption_eq_some_iff.1 hdisk
  exact ⟨⟨v, hv, ((text_eq_iff_of_parse? _).1 v hv).2 (hplain v hv)⟩,
    disk, hdisk, ((text_eq_iff_of_parse? _).2 _ disk hdisk).2 (by decide +kernel)⟩

/-- The extension of a base image is lost if it is not that of its clone. -/
theorem parse?_loses_extension :
    (parse? "local:101/base-101-disk-0.raw/100/vm-100-disk-1.qcow2").map text =
      some "local:101/base-101-disk-0.qcow2/100/vm-100-disk-1.qcow2" := by
  decide +kernel

end Volume

end GuestConfig
