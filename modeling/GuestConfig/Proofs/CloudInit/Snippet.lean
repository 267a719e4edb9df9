import GuestConfig.CloudInit.Snippet
import GuestConfig.Proofs.OptionList
import GuestConfig.Proofs.Outcome

/-!
# Snippets read back

A reference is stored without the slashes in front of its path, and it is read with one.  A
reference that is to be cleared is not stored at all.

## What is here

* `Snippet.stored`, `Snippet.IsStorable` — what a reference is read as, and which ones are read so.
* `CustomSections.stored` and `CustomSections.ofOptions_text` — **the references read back.**
* `CustomSections.isStorable_of_ofOptions` — references that were read can be stored.
* `CustomSections.text_laidOver_stored` — what is asked for once more changes nothing.
-/

set_option autoImplicit false

namespace GuestConfig

open OptionList (IsCleanValue get?_append get?_optional isClean_append isClean_optional
  parse_text_of_isClean)
open Text (splitOnce splitOnce_append splitOnce_eq_some_iff trim)

/-! ## One reference -/

namespace Snippet

/-- What a reference is read as. -/
def stored (snippet : Snippet) : Snippet :=
  ⟨snippet.storage, "/" ++ relative snippet.path⟩

/-- A reference that reads back. -/
structure IsStorable (snippet : Snippet) : Prop where
  colon : ':' ∉ snippet.storage.toList
  clean : IsCleanValue snippet.text

theorem toList_text (snippet : Snippet) :
    snippet.text.toList =
      snippet.storage.toList ++ ':' :: snippet.path.toList.dropWhile (· == '/') := by
  simp [text, relative]

private theorem dropWhile_dropWhile (p : Char → Bool) (cs : List Char) :
    (cs.dropWhile p).dropWhile p = cs.dropWhile p := by
  induction cs with
  | nil => rfl
  | cons c cs ih => cases h : p c <;> simp [h, ih]

@[simp] theorem relative_relative (path : String) : relative (relative path) = relative path := by
  rw [relative, relative, String.toList_ofList, dropWhile_dropWhile]

@[simp] theorem relative_slash (path : String) : relative ("/" ++ path) = relative path := by
  simp [relative]

@[simp] theorem text_stored (snippet : Snippet) : snippet.stored.text = snippet.text := by
  simp [text, stored]

@[simp] theorem isCleared_stored (snippet : Snippet) : snippet.stored.isCleared = false := by
  simp [isCleared, stored]

/-- A reference reads back. -/
theorem decode_text {snippet : Snippet} (h : ':' ∉ snippet.storage.toList) :
    decode snippet.text = .ok snippet.stored := by
  rw [decode, toList_text, splitOnce_append _ h]
  simp [stored, relative, dropWhile_dropWhile]

theorem isStorable_of_isPlain {snippet : Snippet}
    (hstorage : Text.isPlainName snippet.storage = true)
    (hpath : Text.isPathName snippet.path = true) : snippet.IsStorable := by
  have hrelative : Text.isWord (relative snippet.path) = true := by
    refine List.all_eq_true.2 fun c hc ↦ ?_
    rw [relative, String.toList_ofList] at hc
    exact List.all_eq_true.1 (Text.isWord_of_isPathName hpath) c
      ((List.dropWhile_suffix _).subset hc)
  refine ⟨Text.colon_not_mem_of_isPlainName hstorage, OptionList.isCleanValue_of_isWord ?_⟩
  rw [text, Text.isWord_append, Text.isWord_append, Text.isWord_of_isPlainName hstorage, hrelative]
  decide

/-- A value stays clean if what stands behind a colon loses its front. -/
theorem isCleanValue_of_suffix {front rest rest' : List Char}
    (h : IsCleanValue (String.ofList (front ++ ':' :: rest))) (hsuffix : rest' <:+ rest) :
    IsCleanValue (String.ofList (front ++ ':' :: rest')) := by
  obtain ⟨dropped, rfl⟩ := hsuffix
  obtain ⟨hhead, hlast⟩ := Text.trim_eq_self_iff.1 h.trimmed
  have hcomma := h.comma
  simp only [String.toList_ofList] at hhead hlast hcomma
  refine ⟨?_, Text.trim_eq_self_iff.2 ⟨fun c hc ↦ ?_, fun c hc ↦ ?_⟩⟩
  · rw [String.toList_ofList]
    simp only [List.mem_append, List.mem_cons] at hcomma ⊢
    tauto
  · rw [String.toList_ofList] at hc
    exact hhead c (by cases front <;> simpa using hc)
  · rw [String.toList_ofList] at hc
    cases rest' with
    | nil =>
      obtain rfl : ':' = c := by simpa using hc
      decide
    | cons d rest => exact hlast c (by simpa [List.getLast?_append, List.getLast?_cons] using hc)

/-- A reference that was read can be stored. -/
theorem isStorable_of_decode {s : String} {snippet : Snippet} (h : decode s = .ok snippet)
    (hs : IsCleanValue s) : snippet.IsStorable := by
  unfold decode at h
  split at h
  · cases h
  · next storage path hsplit =>
    obtain ⟨heq, hcolon⟩ := splitOnce_eq_some_iff.1 hsplit
    obtain rfl := Except.ok.inj h
    have htext : text ⟨String.ofList storage, "/" ++ relative (String.ofList path)⟩ =
        String.ofList (storage ++ ':' :: path.dropWhile (· == '/')) := by
      rw [← String.toList_inj, toList_text]
      simp [relative, dropWhile_dropWhile]
    refine ⟨by simpa using hcolon, ?_⟩
    rw [htext]
    refine isCleanValue_of_suffix ?_ (List.dropWhile_suffix _)
    rwa [← heq, String.ofList_toList]

end Snippet

/-! ## All references -/

namespace CustomSections

/-- What a reference is read as, if it is stored. -/
def storedReference (snippet : Option Snippet) : Option Snippet :=
  (snippet.filter (!·.isCleared)).map Snippet.stored

/-- What the references are read as. -/
def stored (sections : CustomSections) : CustomSections where
  metadata := storedReference sections.metadata
  network := storedReference sections.network
  user := storedReference sections.user
  vendor := storedReference sections.vendor

/-- References that read back. -/
def IsStorable (sections : CustomSections) : Prop :=
  ∀ snippet, (sections.metadata = some snippet ∨ sections.network = some snippet ∨
    sections.user = some snippet ∨ sections.vendor = some snippet) →
      snippet.isCleared = false → snippet.IsStorable

theorem reference_storedReference (name : String) (snippet : Option Snippet) :
    reference name (storedReference snippet) = reference name snippet := by
  cases snippet with
  | none => rfl
  | some snippet =>
    cases h : snippet.isCleared <;> simp [reference, storedReference, Option.filter_some, h]

/-- **What is asked for once more changes nothing.** -/
theorem text_laidOver_stored (desired base : CustomSections) :
    (desired.laidOver (desired.laidOver base).stored).text = (desired.laidOver base).text := by
  have hreference (name : String) (d b : Option Snippet) :
      reference name (d.or (storedReference (d.or b))) = reference name (d.or b) := by
    cases d with
    | none => exact reference_storedReference name b
    | some snippet => rfl
  simp only [text, entries, laidOver, stored, hreference]

theorem text_stored (sections : CustomSections) : sections.stored.text = sections.text := by
  simp only [text, entries, stored, reference_storedReference]

theorem isClean_reference {name : String} {snippet : Option Snippet}
    (hname : Text.isWord name = true)
    (h : ∀ s, snippet = some s → s.isCleared = false → s.IsStorable) :
    OptionList.IsClean (reference name snippet) :=
  isClean_optional hname fun value hvalue ↦ by
    obtain ⟨s, hs, rfl⟩ := Option.map_eq_some_iff.1 hvalue
    obtain ⟨hs, hcleared⟩ := Option.filter_eq_some_iff.1 hs
    exact (h s hs (by simpa using hcleared)).clean

theorem decodeSection_of_get? {options : OptionList} {name : String} {snippet : Option Snippet}
    (hget : options.get? name = (snippet.filter (!·.isCleared)).map Snippet.text)
    (h : ∀ s, snippet = some s → s.isCleared = false → s.IsStorable) :
    decodeSection options name = .ok (storedReference snippet) := by
  have hstored : options.get? name = (storedReference snippet).map Snippet.text := by
    rw [hget]
    cases snippet with
    | none => rfl
    | some snippet =>
      cases hcleared : snippet.isCleared <;>
      simp [storedReference, Option.filter_some, hcleared]
  refine within_eq_ok_iff.2 (OptionList.decoded?_of_get? hstored fun s hs ↦ ?_)
  obtain ⟨snippet, hsnippet, rfl⟩ := Option.map_eq_some_iff.1 hs
  obtain ⟨hsnippet, hcleared⟩ := Option.filter_eq_some_iff.1 hsnippet
  have hcolon := (h snippet hsnippet (by simpa using hcleared)).colon
  rw [Snippet.text_stored, Snippet.decode_text hcolon]

/-- **The references read back.** -/
theorem ofOptions_text {sections : CustomSections} (h : sections.IsStorable) :
    ofOptions (.parse sections.text) = .ok sections.stored := by
  have hmetadata (s : Snippet) (hs : sections.metadata = some s) := h s (.inl hs)
  have hnetwork (s : Snippet) (hs : sections.network = some s) := h s (.inr (.inl hs))
  have huser (s : Snippet) (hs : sections.user = some s) := h s (.inr (.inr (.inl hs)))
  have hvendor (s : Snippet) (hs : sections.vendor = some s) := h s (.inr (.inr (.inr hs)))
  have hclean : OptionList.IsClean sections.entries := by
    simp only [entries, isClean_append]
    exact ⟨⟨⟨isClean_reference (by decide) hmetadata,
      isClean_reference (by decide) hnetwork⟩,
      isClean_reference (by decide) huser⟩, isClean_reference (by decide) hvendor⟩
  have hgetMeta : (OptionList.mk sections.entries).get? "meta" =
      (sections.metadata.filter (!·.isCleared)).map Snippet.text := by
    simp [entries, reference, get?_append, get?_optional]
  have hgetNetwork : (OptionList.mk sections.entries).get? "network" =
      (sections.network.filter (!·.isCleared)).map Snippet.text := by
    simp [entries, reference, get?_append, get?_optional]
  have hgetUser : (OptionList.mk sections.entries).get? "user" =
      (sections.user.filter (!·.isCleared)).map Snippet.text := by
    simp [entries, reference, get?_append, get?_optional]
  have hgetVendor : (OptionList.mk sections.entries).get? "vendor" =
      (sections.vendor.filter (!·.isCleared)).map Snippet.text := by
    simp [entries, reference, get?_append, get?_optional]
  rw [text, parse_text_of_isClean hclean, ofOptions, decodeSection_of_get? hgetMeta hmetadata,
    decodeSection_of_get? hgetNetwork hnetwork, decodeSection_of_get? hgetUser huser,
    decodeSection_of_get? hgetVendor hvendor]
  rfl

/-- **References that were read can be stored.** -/
theorem isStorable_of_ofOptions {s : String} {sections : CustomSections}
    (h : ofOptions (.parse s) = .ok sections) : sections.IsStorable := by
  have hsection {name : String} {snippet : Snippet}
      (h : decodeSection (.parse s) name = .ok (some snippet)) : snippet.IsStorable := by
    have h := within_eq_ok_iff.1 h
    unfold OptionList.decoded? at h
    split at h
    · cases h
    · next value hvalue =>
      obtain ⟨_, hdecode, hsnippet⟩ := map_eq_ok_iff.1 h
      obtain rfl := Option.some.inj hsnippet
      exact Snippet.isStorable_of_decode hdecode
        (OptionList.isCleanValue_of_mem_parse (OptionList.exists_of_get? hvalue)).1
  simp only [ofOptions, bind_eq_ok_iff, pure_eq_ok_iff] at h
  obtain ⟨metadata, hmetadata, network, hnetwork, user, huser, vendor, hvendor, rfl⟩ := h
  rintro snippet (rfl | rfl | rfl | rfl) -
  · exact hsection hmetadata
  · exact hsection hnetwork
  · exact hsection huser
  · exact hsection hvendor

theorem isStorable_empty : IsStorable { } := by
  rintro snippet (h | h | h | h) <;> cases h

theorem IsStorable.laidOver {desired base : CustomSections} (hdesired : desired.IsStorable)
    (hbase : base.IsStorable) : (desired.laidOver base).IsStorable := by
  intro snippet hsnippet hcleared
  simp only [CustomSections.laidOver, Option.or_eq_some_iff] at hsnippet
  rcases hsnippet with (h | ⟨-, h⟩) | (h | ⟨-, h⟩) | (h | ⟨-, h⟩) | (h | ⟨-, h⟩)
  · exact hdesired snippet (.inl h) hcleared
  · exact hbase snippet (.inl h) hcleared
  · exact hdesired snippet (.inr (.inl h)) hcleared
  · exact hbase snippet (.inr (.inl h)) hcleared
  · exact hdesired snippet (.inr (.inr (.inl h))) hcleared
  · exact hbase snippet (.inr (.inr (.inl h))) hcleared
  · exact hdesired snippet (.inr (.inr (.inr h))) hcleared
  · exact hbase snippet (.inr (.inr (.inr h))) hcleared

end CustomSections

end GuestConfig
