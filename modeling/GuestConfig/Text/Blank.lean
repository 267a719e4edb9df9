/-!
# Blank characters and trimming

Every reader of this library forgives white space around what it reads, and *white space* always
means the Unicode property `White_Space`: no-break and ideographic spaces count, a zero-width
space does not.  The characters are listed here once, together with the three ways of cutting
them off the ends of a text.

## What is here

* `isBlank` — the property, a character at a time.
* `trimStart`, `trimEnd`, `trim` — texts without the blanks at one end or at both, over lists of
  characters; `trimmed` is `trim` for a `String`.
* `trim_eq_self` — a text is left alone when neither of its ends is blank.
-/

set_option autoImplicit false

namespace GuestConfig.Text

/-! ## The property -/

/-- The characters with the Unicode property `White_Space`. -/
def isBlank (c : Char) : Bool :=
  let n := c.toNat
  (9 ≤ n && n ≤ 13) || n == 0x20 || n == 0x85 || n == 0xA0 || n == 0x1680 ||
    (0x2000 ≤ n && n ≤ 0x200A) || n == 0x2028 || n == 0x2029 || n == 0x202F || n == 0x205F ||
    n == 0x3000

/-! ## Trimming -/

/-- A text from its first character that is not blank. -/
def trimStart (cs : List Char) : List Char :=
  cs.dropWhile isBlank

/-- A text up to its last character that is not blank. -/
def trimEnd (cs : List Char) : List Char :=
  (cs.reverse.dropWhile isBlank).reverse

/-- A text without the blanks at its two ends. -/
def trim (cs : List Char) : List Char :=
  trimEnd (trimStart cs)

/-- `trim` for a `String`. -/
def trimmed (s : String) : String :=
  String.ofList (trim s.toList)

@[simp] theorem toList_trimmed (s : String) : (trimmed s).toList = trim s.toList :=
  String.toList_ofList

@[simp] theorem trim_nil : trim [] = [] := rfl

theorem trimStart_eq_self {cs : List Char} (h : ∀ c, cs.head? = some c → isBlank c = false) :
    trimStart cs = cs := by
  cases cs with
  | nil => rfl
  | cons c rest => simp [trimStart, h c rfl]

theorem trimEnd_eq_self {cs : List Char} (h : ∀ c, cs.getLast? = some c → isBlank c = false) :
    trimEnd cs = cs := by
  have : trimStart cs.reverse = cs.reverse := trimStart_eq_self (by simpa using h)
  simpa [trimEnd, trimStart] using congrArg List.reverse this

/-- **A text neither of whose ends is blank is its own trimming.** -/
theorem trim_eq_self {cs : List Char} (first : ∀ c, cs.head? = some c → isBlank c = false)
    (last : ∀ c, cs.getLast? = some c → isBlank c = false) : trim cs = cs := by
  rw [trim, trimStart_eq_self first, trimEnd_eq_self last]

theorem trim_eq_self_of_all {cs : List Char} (h : ∀ c ∈ cs, isBlank c = false) : trim cs = cs :=
  trim_eq_self (fun c hc ↦ h c (List.mem_of_head? hc)) fun c hc ↦ h c (List.mem_of_getLast? hc)

end GuestConfig.Text
