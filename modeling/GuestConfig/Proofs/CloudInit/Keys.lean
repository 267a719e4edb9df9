import GuestConfig.CloudInit.Keys
import GuestConfig.Proofs.Text.Percent
import GuestConfig.Proofs.Text.Split

/-!
# Public keys read back

The keys are encoded one by one, and the text between two of them is the encoding of a line end.
So they are stored as the encoding of one text, whose lines they are.  A key may hold anything but a
line end: percent signs and characters of several bytes are escaped, and a carriage return is part
of a line unless a newline follows it.

## What is here

* `PublicKeys.IsStorable` — the keys that are lines of their own.
* `PublicKeys.decode_text_eq` — **keys read back as their trimmings**; `PublicKeys.decode_text` is
  the case of keys that are lines of their own, and by `PublicKeys.exists_decode_text` other keys
  can be read, too.
* `PublicKeys.text_readsBack` — **what is stored is percent-encoded and reads back.**
-/

set_option autoImplicit false

namespace GuestConfig.PublicKeys

open Text (IsPercentEncoded filter_lines_intercalate isPercentEncoded_percentEncode
  mem_of_mem_trim percentDecode?_percentEncode percentEncode percentEncode_append toList_trimmed
  trim trim_trim trimmed)

/-- A key that is a line of its own: neither empty nor divided, and without blanks at its ends. -/
def IsStorable (key : String) : Prop :=
  '\n' ∉ key.toList ∧ trim key.toList = key.toList ∧ key.toList ≠ []

theorem percentEncode_intercalate (pieces : List (List Char)) :
    percentEncode (['\n'].intercalate pieces) =
      separator.toList.intercalate (pieces.map percentEncode) := by
  have hseparator : percentEncode ['\n'] = separator.toList := by decide
  induction pieces with
  | nil => rfl
  | cons piece rest ih =>
    cases rest with
    | nil => simp
    | cons next rest =>
      rw [List.intercalate_cons_cons, percentEncode_append, percentEncode_append, ih, hseparator]
      simp only [List.map_cons, List.intercalate_cons_cons]

/-- The keys are stored as the encoding of their lines. -/
theorem text_eq (keys : PublicKeys) :
    text keys = String.ofList (percentEncode
      (['\n'].intercalate (keys.map fun key ↦ trim key.toList))) := by
  rw [percentEncode_intercalate, text, ← String.toList_inj, String.toList_intercalate,
    String.toList_ofList, List.map_map, List.map_map]
  exact congrArg (List.intercalate separator.toList) (List.map_congr_left fun key _ ↦ by simp)

/-- **Keys can be read**, whatever they are. -/
theorem exists_decode_text (keys : PublicKeys) : ∃ found, decode (text keys) = .ok found := by
  rw [text_eq, decode, percentDecode?_percentEncode]
  exact ⟨_, rfl⟩

/-- **Keys read back as their trimmings**, in their order; blank ones do not count. -/
theorem decode_text_eq {keys : PublicKeys} (h : ∀ key ∈ keys, '\n' ∉ trim key.toList) :
    decode (text keys) = .ok ((keys.map trimmed).filter (· ≠ "")) := by
  have hlines : ∀ piece ∈ keys.map fun key ↦ trim key.toList,
      '\n' ∉ piece ∧ trim piece = piece := by
    intro piece hpiece
    obtain ⟨key, hkey, rfl⟩ := List.mem_map.1 hpiece
    exact ⟨h key hkey, trim_trim _⟩
  have hblank (key : String) : decide (trimmed key ≠ "") = !(trim key.toList).isEmpty := by
    have hiff : trimmed key = "" ↔ (trim key.toList).isEmpty = true := by
      rw [← String.toList_inj, toList_trimmed, List.isEmpty_iff]
      rfl
    rw [Bool.eq_iff_iff, decide_eq_true_iff, Bool.not_eq_true', ne_eq, hiff, Bool.not_eq_true]
  rw [decode, text_eq, percentDecode?_percentEncode]
  dsimp only
  rw [String.toList_ofList, filter_lines_intercalate hlines, List.filter_map, List.filter_map,
    List.map_map]
  simp only [Function.comp_def, hblank]
  rfl

/-- **Keys that are lines of their own read back.** -/
theorem decode_text {keys : PublicKeys} (h : ∀ key ∈ keys, IsStorable key) :
    decode (text keys) = .ok keys := by
  have htrimmed : keys.map trimmed = keys := by
    refine (List.map_congr_left fun key hkey ↦ ?_).trans (List.map_id keys)
    rw [trimmed, (h key hkey).2.1, String.ofList_toList]
    rfl
  rw [decode_text_eq fun key hkey ↦ (h key hkey).2.1.symm ▸ (h key hkey).1, htrimmed]
  refine congrArg _ (List.filter_eq_self.2 fun key hkey ↦ decide_eq_true fun hnil ↦ ?_)
  exact (h key hkey).2.2 (by rw [hnil]; rfl)

/-- **What is stored is percent-encoded and reads back**: every key that holds no line end comes
back without the blanks around it, in the order of the keys, and blank ones do not count. -/
theorem text_readsBack (keys : PublicKeys) :
    IsPercentEncoded (text keys).toList ∧
      ((∀ key ∈ keys, '\n' ∉ key.toList) →
        decode (text keys) = .ok ((keys.map trimmed).filter (· ≠ ""))) := by
  refine ⟨?_, fun h ↦ decode_text_eq fun key hkey hnewline ↦ ?_⟩
  · rw [text_eq, String.toList_ofList]
    exact isPercentEncoded_percentEncode _
  · exact h key hkey (mem_of_mem_trim hnewline)

/-- Keys that are easily lost: a percent sign that looks like the end of a line, a character of
several bytes, a carriage return within a key and at its end, and blank keys at both ends. -/
def unusualKeys : PublicKeys :=
  ["", "\tssh-ed25519 AA+b/c= zoë@host\r", "%0A", "a\rb\u00a0", " \u3000"]

/-- All that is lost are the blanks. -/
theorem text_readsBack_of_unusual :
    (∀ key ∈ unusualKeys, '\n' ∉ key.toList) ∧
      text unusualKeys = "%0Assh-ed25519%20AA%2Bb%2Fc%3D%20zo%C3%AB%40host%0A%250A%0Aa%0Db%0A" ∧
      decode (text unusualKeys) = .ok ["ssh-ed25519 AA+b/c= zoë@host", "%0A", "a\rb"] := by
  have h : ∀ key ∈ unusualKeys, '\n' ∉ key.toList := by decide
  have hread := (text_readsBack unusualKeys).2 h
  exact ⟨h, by decide +kernel, hread.trans (congrArg _ (by decide +kernel))⟩

end GuestConfig.PublicKeys
