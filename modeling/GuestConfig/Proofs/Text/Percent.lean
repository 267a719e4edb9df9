import GuestConfig.Proofs.Text.Word
import GuestConfig.Text.Hex
import GuestConfig.Text.Percent

/-!
# Percent-encoded texts read back

Encoding goes character by character and decoding byte by byte.  Both are seen here as functions on
bytes: the bytes of one encoded character are decoded to the bytes of that character, whatever
follows them.

## What is here

* `IsPercentEncoded` — the texts of unreserved characters and escapes, and
  `isPercentEncoded_percentEncode`: every encoded text is one of them.
* `utf8` — the bytes of a text.
* `unescape_escapeByte`, `unescape_percentEncodeChar` — one byte and one character, in front of a
  text.
* `percentDecode?_percentEncode` — **an encoded text reads back.**
-/

set_option autoImplicit false

namespace GuestConfig.Text

/-! ## What an encoded text looks like -/

/-- A text of unreserved characters and of escapes, each of which is a percent sign and two
hexadecimal digits. -/
inductive IsPercentEncoded : List Char → Prop
  /-- There is nothing in it. -/
  | nil : IsPercentEncoded []
  /-- An unreserved character comes first. -/
  | unreserved {c : Char} {rest : List Char} (hc : isUnreserved c = true)
      (hrest : IsPercentEncoded rest) : IsPercentEncoded (c :: rest)
  /-- An escape comes first. -/
  | escape {high low : Char} {rest : List Char} (hhigh : isHexDigit high = true)
      (hlow : isHexDigit low = true) (hrest : IsPercentEncoded rest) :
      IsPercentEncoded ('%' :: high :: low :: rest)

theorem IsPercentEncoded.append {cs ds : List Char} (hcs : IsPercentEncoded cs)
    (hds : IsPercentEncoded ds) : IsPercentEncoded (cs ++ ds) := by
  induction hcs with
  | nil => exact hds
  | unreserved hc _ ih => exact .unreserved hc ih
  | escape hhigh hlow _ ih => exact .escape hhigh hlow ih

theorem isPercentEncoded_flatMap {α : Type} {f : α → List Char} {items : List α}
    (h : ∀ a, IsPercentEncoded (f a)) : IsPercentEncoded (items.flatMap f) := by
  induction items with
  | nil => exact .nil
  | cons a rest ih => exact (h a).append ih

theorem isHexDigit_hexDigit {n : Nat} (h : n < 16) : isHexDigit (hexDigit n) = true := by
  have hall : ∀ m : Fin 16, isHexDigit (hexDigit m) = true := by decide
  exact hall ⟨n, h⟩

theorem isPercentEncoded_escapeByte (b : UInt8) : IsPercentEncoded (escapeByte b) := by
  have hb : b.toNat < 256 := b.toNat_lt
  exact .escape (isHexDigit_hexDigit (by omega)) (isHexDigit_hexDigit (by omega)) .nil

/-- **An encoded text holds nothing but unreserved characters and escapes.** -/
theorem isPercentEncoded_percentEncode (cs : List Char) : IsPercentEncoded (percentEncode cs) := by
  refine isPercentEncoded_flatMap fun c ↦ ?_
  unfold percentEncodeChar
  split
  · next hc => exact .unreserved hc .nil
  · exact isPercentEncoded_flatMap isPercentEncoded_escapeByte

/-! ## Bytes -/

/-- The bytes of a text. -/
def utf8 (cs : List Char) : List UInt8 :=
  cs.flatMap String.utf8EncodeChar

@[simp] theorem utf8_append (cs ds : List Char) : utf8 (cs ++ ds) = utf8 cs ++ utf8 ds :=
  List.flatMap_append

theorem toList_toUTF8 (cs : List Char) : (String.ofList cs).toUTF8.data.toList = utf8 cs := by
  rw [String.toUTF8_eq_toByteArray, String.toByteArray_ofList, List.utf8Encode, utf8]
  simp

theorem fromUTF8?_utf8 (cs : List Char) :
    String.fromUTF8? (utf8 cs).toByteArray = some (String.ofList cs) := by
  have hbytes : (utf8 cs).toByteArray = (String.ofList cs).toByteArray := by
    rw [String.toByteArray_ofList, List.utf8Encode, utf8]
  rw [hbytes, String.fromUTF8?, dif_pos (String.ofList cs).isValidUTF8]
  rfl

/-! ## Decoding from the front -/

theorem unescape_cons_of_ne {a : UInt8} (h : a ≠ 0x25) (rest : List UInt8) :
    unescape (a :: rest) = a :: unescape rest := by
  match rest with
  | [] => rfl
  | [_] => rfl
  | b :: c :: rest =>
    rw [unescape, if_neg h]

/-- A hexadecimal digit is one byte, and it stands for its value. -/
theorem hexByte?_hexDigit {n : Nat} (h : n < 16) :
    ∃ b, String.utf8EncodeChar (hexDigit n) = [b] ∧ hexByte? b = some (UInt8.ofNat n) := by
  have hall : ∀ m : Fin 16, (String.utf8EncodeChar (hexDigit m)).map hexByte? =
      [some (UInt8.ofNat m)] := by
    decide
  obtain ⟨b, hb, hvalue⟩ := List.map_eq_singleton_iff.1 (hall ⟨n, h⟩)
  exact ⟨b, hb, hvalue⟩

/-- **An escaped byte is decoded to that byte.** -/
theorem unescape_escapeByte (b : UInt8) (rest : List UInt8) :
    unescape (utf8 (escapeByte b) ++ rest) = b :: unescape rest := by
  have hb : b.toNat < 256 := b.toNat_lt
  obtain ⟨high, hhigh, hhigh'⟩ := hexByte?_hexDigit (n := b.toNat / 16) (by omega)
  obtain ⟨low, hlow, hlow'⟩ := hexByte?_hexDigit (n := b.toNat % 16) (by omega)
  have hbytes : utf8 (escapeByte b) = [0x25, high, low] := by
    have hpercent : String.utf8EncodeChar '%' = [0x25] := by decide
    simp [utf8, escapeByte, hpercent, hhigh, hlow]
  have hvalue : 16 * UInt8.ofNat (b.toNat / 16) + UInt8.ofNat (b.toNat % 16) = b := by
    rw [← UInt8.toNat_inj]
    simp
    omega
  rw [hbytes, List.cons_append, List.cons_append, List.cons_append, List.nil_append, unescape,
    if_pos rfl, hhigh', hlow']
  dsimp only
  rw [hvalue]

theorem unescape_flatMap_escapeByte (bs rest : List UInt8) :
    unescape (utf8 (bs.flatMap escapeByte) ++ rest) = bs ++ unescape rest := by
  induction bs with
  | nil => rfl
  | cons b bs ih =>
    rw [List.flatMap_cons, utf8_append, List.append_assoc, unescape_escapeByte, ih,
      List.cons_append]

/-- An unreserved character is one byte, and no percent sign. -/
theorem utf8EncodeChar_of_isUnreserved {c : Char} (h : isUnreserved c = true) :
    ∃ b, String.utf8EncodeChar c = [b] ∧ b ≠ 0x25 := by
  have hc : c.toNat < 128 ∧ c.toNat ≠ 0x25 := by
    simp only [isUnreserved, Bool.or_eq_true, beq_iff_eq] at h
    rcases h with (((h | rfl) | rfl) | rfl) | rfl
    · have hclass := isAlphanum_iff.1 h
      omega
    all_goals decide
  have hsize : c.utf8Size = 1 := Char.utf8Size_eq_one_iff.2 (by
    rw [UInt32.le_iff_toNat_le]
    exact Nat.le_of_lt_succ hc.1)
  refine ⟨_, String.utf8EncodeChar_eq_singleton hsize, fun hpercent ↦ hc.2 ?_⟩
  have hmod : c.toNat % 256 = 0x25 := congrArg UInt8.toNat hpercent
  omega

/-- **An encoded character is decoded to its bytes.** -/
theorem unescape_percentEncodeChar (c : Char) (rest : List UInt8) :
    unescape (utf8 (percentEncodeChar c) ++ rest) = String.utf8EncodeChar c ++ unescape rest := by
  unfold percentEncodeChar
  split
  · next h =>
    obtain ⟨b, hb, hne⟩ := utf8EncodeChar_of_isUnreserved h
    have hbytes : utf8 [c] = [b] := by simp [utf8, hb]
    rw [hbytes, hb]
    exact unescape_cons_of_ne hne rest
  · exact unescape_flatMap_escapeByte _ _

theorem unescape_utf8_percentEncode (cs : List Char) :
    unescape (utf8 (percentEncode cs)) = utf8 cs := by
  induction cs with
  | nil => rfl
  | cons c cs ih =>
    rw [percentEncode, List.flatMap_cons, utf8_append, unescape_percentEncodeChar]
    exact congrArg (String.utf8EncodeChar c ++ ·) ih

/-- **An encoded text reads back.** -/
theorem percentDecode?_percentEncode (cs : List Char) :
    percentDecode? (String.ofList (percentEncode cs)) = some (String.ofList cs) := by
  rw [percentDecode?, toList_toUTF8, unescape_utf8_percentEncode, fromUTF8?_utf8]

end GuestConfig.Text
