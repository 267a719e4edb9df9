import GuestConfig.OptionList
import GuestConfig.Proofs.Text.Number
import GuestConfig.Proofs.Unit.FixedPoint
import GuestConfig.Proofs.Unit.Size
import GuestConfig.Text.Hex

/-!
# Words

Most of what stands in a list of options is a word: it has no comma and no equals sign, at which
lists are cut, and no blank, which would be trimmed.  A word comes out of a list as it was put in.

## What is here

* `isWordChar`, `isWord` — the characters of words, and words.
* `isWordChar_of_isAlphanum`, `isWordChar_of_isHexDigit` — letters and digits belong to words.
* `all_of_splitOn`, `all_of_splitOnce` — what holds for all pieces of a text and for the separator
  holds for the text.
* `isPlainName`, `isPathName` — names and paths that are words.
* `isWord_natural`, `isWord_formatSize`, … — numbers, sizes, tokens and truth values are words.
-/

set_option autoImplicit false

namespace GuestConfig.Text

/-- Whether a character can stand anywhere in a list of options without dividing it. -/
def isWordChar (c : Char) : Bool :=
  c != ',' && c != '=' && !isBlank c

/-- Whether all characters of a text belong to words. -/
def isWord (s : String) : Bool :=
  s.toList.all isWordChar

/-! ## Characters -/

theorem isAlphanum_iff {c : Char} :
    c.isAlphanum = true ↔ (65 ≤ c.toNat ∧ c.toNat ≤ 90) ∨ (97 ≤ c.toNat ∧ c.toNat ≤ 122) ∨
      (48 ≤ c.toNat ∧ c.toNat ≤ 57) := by
  rw [Char.isAlphanum, Bool.or_eq_true, isAlpha_iff, isDigit_iff, or_assoc]

theorem isWordChar_of_isAlphanum {c : Char} (h : c.isAlphanum = true) : isWordChar c = true := by
  have hc := isAlphanum_iff.1 h
  have hcomma : c ≠ ',' := by
    rintro rfl
    revert hc
    decide
  have hequals : c ≠ '=' := by
    rintro rfl
    revert hc
    decide
  have hblank : isBlank c = false := by
    simp only [isBlank, Bool.or_eq_false_iff, Bool.and_eq_false_iff, decide_eq_false_iff_not,
      beq_eq_false_iff_ne]
    omega
  simp [isWordChar, hcomma, hequals, hblank]

theorem isAlphanum_of_isDigit {c : Char} (h : c.isDigit = true) : c.isAlphanum = true := by
  simp [Char.isAlphanum, h]

theorem isAlphanum_of_isHexDigit {c : Char} (h : isHexDigit c = true) : c.isAlphanum = true := by
  simp only [isHexDigit, Bool.or_eq_true, Bool.and_eq_true, decide_eq_true_eq] at h
  rcases h with (h | ⟨hlow, hhigh⟩) | ⟨hlow, hhigh⟩
  · exact isAlphanum_of_isDigit h
  · have hupper : c.toNat ≤ 102 := hhigh
    have hlower : 97 ≤ c.toNat := hlow
    exact isAlphanum_iff.2 (.inr (.inl ⟨hlower, by omega⟩))
  · have hupper : c.toNat ≤ 70 := hhigh
    have hlower : 65 ≤ c.toNat := hlow
    exact isAlphanum_iff.2 (.inl ⟨hlower, by omega⟩)

theorem isWordChar_of_isHexDigit {c : Char} (h : isHexDigit c = true) : isWordChar c = true :=
  isWordChar_of_isAlphanum (isAlphanum_of_isHexDigit h)

theorem isWordChar_of_isHexNumber {width : Nat} {cs : List Char} (h : isHexNumber width cs = true) :
    cs.all isWordChar = true := by
  rw [isHexNumber, Bool.and_eq_true] at h
  exact List.all_eq_true.2 fun c hc ↦ isWordChar_of_isHexDigit (List.all_eq_true.1 h.2 c hc)

theorem isWordChar_of_isNameChar {c : Char} (h : (c.isAlphanum || c == '-' || c == '_') = true) :
    isWordChar c = true := by
  simp only [Bool.or_eq_true, beq_iff_eq] at h
  rcases h with (h | rfl) | rfl
  · exact isWordChar_of_isAlphanum h
  · decide
  · decide

/-! ## Pieces -/

theorem all_intercalate {p : Char → Bool} {sep : List Char} {pieces : List (List Char)}
    (hsep : sep.all p = true) (h : ∀ piece ∈ pieces, piece.all p = true) :
    (sep.intercalate pieces).all p = true := by
  induction pieces with
  | nil => rfl
  | cons piece rest ih =>
    have hpiece := h piece List.mem_cons_self
    have hrest := ih fun q hq ↦ h q (List.mem_cons_of_mem _ hq)
    cases rest with
    | nil => simpa using hpiece
    | cons next rest =>
      simp only [List.intercalate_cons_cons, List.all_append, hpiece, hrest, hsep, Bool.and_self]

/-- **What holds for the pieces of a text and for the separator holds for the text.** -/
theorem all_of_splitOn {p : Char → Bool} {sep : Char} {cs : List Char} (hsep : p sep = true)
    (h : ∀ piece ∈ splitOn sep cs, piece.all p = true) : cs.all p = true := by
  have hall : ([sep].intercalate (splitOn sep cs)).all p = true :=
    all_intercalate (by simpa using hsep) h
  rwa [intercalate_splitOn] at hall

theorem all_of_splitOnce {p : Char → Bool} {sep : Char} {cs before after : List Char}
    (h : splitOnce sep cs = some (before, after)) (hsep : p sep = true)
    (hbefore : before.all p = true) (hafter : after.all p = true) : cs.all p = true := by
  rw [(splitOnce_eq_some_iff.1 h).1, List.all_append, List.all_cons, hbefore, hsep, hafter]
  rfl

/-! ## Words -/

theorem comma_not_mem_of_isWord {s : String} (h : isWord s = true) : ',' ∉ s.toList := fun hc ↦
  absurd (List.all_eq_true.1 h ',' hc) (by decide)

theorem equals_not_mem_of_isWord {s : String} (h : isWord s = true) : '=' ∉ s.toList := fun hc ↦
  absurd (List.all_eq_true.1 h '=' hc) (by decide)

theorem trim_of_isWord {s : String} (h : isWord s = true) : trim s.toList = s.toList :=
  trim_eq_self_of_all fun c hc ↦ by
    have := List.all_eq_true.1 h c hc
    simp_all [isWordChar]

theorem isWord_append {s t : String} : isWord (s ++ t) = (isWord s && isWord t) := by
  simp [isWord]

theorem isWord_intercalate {sep : String} {pieces : List String} (hsep : isWord sep = true)
    (h : ∀ piece ∈ pieces, isWord piece = true) :
    isWord (String.intercalate sep pieces) = true := by
  rw [isWord, String.toList_intercalate]
  refine all_intercalate hsep fun piece hpiece ↦ ?_
  obtain ⟨s, hs, rfl⟩ := List.mem_map.1 hpiece
  exact h s hs

theorem isWord_of_all {p : Char → Bool} {s : String} (h : s.toList.all p = true)
    (himp : ∀ c, p c = true → isWordChar c = true) : isWord s = true :=
  List.all_eq_true.2 fun c hc ↦ himp c (List.all_eq_true.1 h c hc)

/-- Whether a name is made of letters, digits, dots, underscores and hyphens. -/
def isPlainName (s : String) : Bool :=
  s.toList.all fun c ↦ c.isAlphanum || c == '.' || c == '_' || c == '-'

/-- Whether a path is made of such names and slashes. -/
def isPathName (s : String) : Bool :=
  s.toList.all fun c ↦ c.isAlphanum || c == '.' || c == '_' || c == '-' || c == '/'

theorem isWord_of_isPathName {s : String} (h : isPathName s = true) : isWord s = true :=
  isWord_of_all h fun c hc ↦ by
    simp only [Bool.or_eq_true, beq_iff_eq] at hc
    rcases hc with (((hc | rfl) | rfl) | rfl) | rfl
    · exact isWordChar_of_isAlphanum hc
    all_goals decide

theorem isPathName_of_isPlainName {s : String} (h : isPlainName s = true) :
    isPathName s = true :=
  List.all_eq_true.2 fun c hc ↦ by
    rw [List.all_eq_true.1 h c hc, Bool.true_or]

theorem isWord_of_isPlainName {s : String} (h : isPlainName s = true) : isWord s = true :=
  isWord_of_isPathName (isPathName_of_isPlainName h)

theorem colon_not_mem_of_isPlainName {s : String} (h : isPlainName s = true) :
    ':' ∉ s.toList := fun hc ↦ absurd (List.all_eq_true.1 h ':' hc) (by decide)

theorem isWord_natural (n : Nat) : isWord (natural n) = true := by
  refine List.all_eq_true.2 fun c hc ↦ ?_
  rw [toList_natural] at hc
  exact isWordChar_of_isAlphanum (isAlphanum_of_isDigit (isDigit_of_mem_digits hc))

theorem isWord_wordText {α : Type} [Word α] (a : α) : isWord (Word.text a) = true :=
  isWord_natural _

theorem isWord_flagText (b : Bool) : isWord (flagText b) = true := by
  cases b <;> decide

/-- The names of tokens are words if those of all members are. -/
theorem isWord_name {α : Type} [Token α]
    (h : (Token.members : List α).all (fun a ↦ isWord (Token.name a)) = true) (a : α) :
    isWord (Token.name a) = true :=
  List.all_eq_true.1 h a (Token.complete a)

theorem isWord_formatDecimal (n places : Nat) : isWord (formatDecimal n places) = true := by
  refine List.all_eq_true.2 fun c hc ↦ ?_
  rcases isDigit_or_of_mem_formatDecimal hc with hdigit | rfl
  · exact isWordChar_of_isAlphanum (isAlphanum_of_isDigit hdigit)
  · decide

theorem isWord_formatSize (kib : UInt64) : isWord (formatSize kib) = true := by
  have hletter (u : SizeUnit) : isWordChar u.letter = true := by
    cases u <;> decide
  rw [isWord, toList_formatSize, List.all_append, Bool.and_eq_true]
  exact ⟨List.all_eq_true.2 fun c hc ↦
    isWordChar_of_isAlphanum (isAlphanum_of_isDigit (isDigit_of_mem_digits hc)), by simp [hletter]⟩

end GuestConfig.Text
