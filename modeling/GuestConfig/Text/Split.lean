import GuestConfig.Text.Blank

/-!
# Cutting a text at separators

The formats of this library nest separators: options are divided by commas, an option by its
first `=`, a volume by its first `:`, an address by dots.  All of them are cut with the functions
below, which work on lists of characters and lose nothing but the separators themselves.

## What is here

* `split p` — the pieces between the characters with `p`; there is always at least one
  (`split_ne_nil`), no piece holds a separator (`not_of_mem_split`), and a text without separators
  is its own only piece (`split_eq_singleton`).  `split_append_cons` is the law that makes joining
  and splitting inverse.
* `splitOnce c`, `splitLast c` — a text around the first or the last `c`; `splitOnce_eq_some_iff`
  says exactly when and where the first cut happens.
* `splitAt sep` — a text around the first occurrence of a text.
* `words`, `lines` — the pieces between blanks, and between line ends.
* `dropStart`, `dropEnd` — a text without a given beginning or ending.
-/

set_option autoImplicit false

namespace GuestConfig.Text

/-! ## All pieces -/

/-- The pieces of a text between the characters with `p`, empty pieces included. -/
def split (p : Char → Bool) : List Char → List (List Char)
  | [] => [[]]
  | c :: cs =>
    if p c then [] :: split p cs
    else match split p cs with
      | [] => [[c]]
      | piece :: rest => (c :: piece) :: rest

/-- The pieces of a text between the occurrences of one character. -/
def splitOn (sep : Char) (cs : List Char) : List (List Char) :=
  split (· == sep) cs

theorem split_ne_nil (p : Char → Bool) (cs : List Char) : split p cs ≠ [] := by
  cases cs with
  | nil => simp [split]
  | cons c cs =>
    rw [split]
    split
    · simp
    · split <;> simp

theorem split_eq_singleton {p : Char → Bool} {cs : List Char} (h : ∀ c ∈ cs, p c = false) :
    split p cs = [cs] := by
  induction cs with
  | nil => rfl
  | cons c cs ih =>
    rw [split, if_neg (by simp [h c]), ih fun x hx ↦ h x (List.mem_cons_of_mem _ hx)]

/-- **A piece without separators, a separator, and a text: the piece comes off in front.** -/
theorem split_append_cons {p : Char → Bool} {piece : List Char} {sep : Char} (rest : List Char)
    (h : ∀ c ∈ piece, p c = false) (hsep : p sep = true) :
    split p (piece ++ sep :: rest) = piece :: split p rest := by
  induction piece with
  | nil => simp [split, hsep]
  | cons c piece ih =>
    rw [List.cons_append, split, if_neg (by simp [h c]),
      ih fun x hx ↦ h x (List.mem_cons_of_mem _ hx)]

theorem not_of_mem_split {p : Char → Bool} {cs piece : List Char} (h : piece ∈ split p cs) :
    ∀ c ∈ piece, p c = false := by
  induction cs generalizing piece with
  | nil => simp_all [split]
  | cons c cs ih =>
    rw [split] at h
    split at h
    · rcases List.mem_cons.1 h with rfl | h
      · simp
      · exact ih h
    · next hc =>
      split at h
      · next heq => exact absurd heq (split_ne_nil p cs)
      · next first rest heq =>
        rcases List.mem_cons.1 h with rfl | h
        · intro x hx
          rcases List.mem_cons.1 hx with rfl | hx
          · simpa using hc
          · exact ih (heq ▸ List.mem_cons_self) x hx
        · exact ih (heq ▸ List.mem_cons_of_mem _ h)

/-! ## One cut -/

/-- The text before the first `sep` and the text after it, if there is one. -/
def splitOnce (sep : Char) : List Char → Option (List Char × List Char)
  | [] => none
  | c :: cs =>
    if c = sep then some ([], cs)
    else (splitOnce sep cs).map fun (before, after) ↦ (c :: before, after)

/-- **A text is cut exactly where its first separator stands.** -/
theorem splitOnce_eq_some_iff {sep : Char} {cs before after : List Char} :
    splitOnce sep cs = some (before, after) ↔ cs = before ++ sep :: after ∧ sep ∉ before := by
  induction cs generalizing before with
  | nil => simp [splitOnce]
  | cons c cs ih =>
    rw [splitOnce]
    split
    · next h =>
      subst h
      cases before with
      | nil => simp [eq_comm]
      | cons b before =>
        simp only [Option.some.injEq, Prod.mk.injEq, reduceCtorEq, false_and, List.cons_append,
          List.cons.injEq, List.mem_cons, not_or, false_iff, not_and]
        rintro ⟨rfl, -⟩ h
        exact absurd rfl h
    · next h =>
      cases before with
      | nil =>
        simp only [Option.map_eq_some_iff, Prod.mk.injEq, reduceCtorEq, false_and, and_false,
          exists_const, List.nil_append, List.cons.injEq, false_iff]
        rintro ⟨⟨rfl, -⟩, -⟩
        exact h rfl
      | cons b before =>
        simp only [Option.map_eq_some_iff, Prod.mk.injEq, List.cons.injEq, Prod.exists,
          List.cons_append, List.mem_cons, not_or]
        constructor
        · rintro ⟨x, y, hxy, ⟨rfl, rfl⟩, rfl⟩
          obtain ⟨rfl, hx⟩ := ih.1 hxy
          exact ⟨⟨rfl, rfl⟩, fun e ↦ h e.symm, hx⟩
        · rintro ⟨⟨rfl, rfl⟩, -, hb⟩
          exact ⟨before, after, ih.2 ⟨rfl, hb⟩, ⟨rfl, rfl⟩, rfl⟩

theorem splitOnce_eq_none_iff {sep : Char} {cs : List Char} :
    splitOnce sep cs = none ↔ sep ∉ cs := by
  induction cs with
  | nil => simp [splitOnce]
  | cons c cs ih =>
    rw [splitOnce]
    split
    · next h => simp [h]
    · next h => simp [ih, show ¬sep = c from fun e ↦ h e.symm]

/-- The text before the last `sep` and the text after it, if there is one. -/
def splitLast (sep : Char) (cs : List Char) : Option (List Char × List Char) :=
  (splitOnce sep cs.reverse).map fun (after, before) ↦ (before.reverse, after.reverse)

/-! ## Known beginnings and endings -/

/-- What follows the beginning `start`, if a text begins with it. -/
def dropStart : List Char → List Char → Option (List Char)
  | [], cs => some cs
  | _ :: _, [] => none
  | c :: start, d :: cs => if c = d then dropStart start cs else none

/-- A beginning is dropped exactly when it is there. -/
theorem dropStart_eq_some_iff {start cs rest : List Char} :
    dropStart start cs = some rest ↔ cs = start ++ rest := by
  induction start generalizing cs with
  | nil => simp [dropStart]
  | cons c start ih =>
    cases cs with
    | nil => simp [dropStart]
    | cons d cs =>
      rw [dropStart]
      split
      · next h => simp [ih, h]
      · next h => simp [show ¬d = c from fun e ↦ h e.symm]

@[simp] theorem dropStart_append (start rest : List Char) :
    dropStart start (start ++ rest) = some rest :=
  dropStart_eq_some_iff.2 rfl

/-- The text before the first occurrence of `sep` and the text after it, if there is one. -/
def splitAt (sep : List Char) : List Char → Option (List Char × List Char)
  | [] => (dropStart sep []).map fun rest ↦ ([], rest)
  | c :: cs =>
    match dropStart sep (c :: cs) with
    | some rest => some ([], rest)
    | none => (splitAt sep cs).map fun (before, after) ↦ (c :: before, after)

/-- Nothing is lost but the separator. -/
theorem eq_append_of_splitAt {sep cs before after : List Char}
    (h : splitAt sep cs = some (before, after)) : cs = before ++ sep ++ after := by
  induction cs generalizing before with
  | nil =>
    obtain ⟨rest, hrest, heq⟩ := Option.map_eq_some_iff.1 h
    cases heq
    simpa using dropStart_eq_some_iff.1 hrest
  | cons c cs ih =>
    rw [splitAt] at h
    split at h
    · next rest hrest =>
      cases h
      simpa using dropStart_eq_some_iff.1 hrest
    · obtain ⟨⟨b, a⟩, hba, heq⟩ := Option.map_eq_some_iff.1 h
      cases heq
      simpa using ih hba

/-- What precedes the ending `ending`, if a text ends with it. -/
def dropEnd (ending cs : List Char) : Option (List Char) :=
  (dropStart ending.reverse cs.reverse).map List.reverse

/-! ## Words and lines -/

/-- The pieces of a text between blanks. -/
def words (cs : List Char) : List (List Char) :=
  (split isBlank cs).filter (!·.isEmpty)

/-- A line without the carriage return that may end it. -/
def dropReturn (line : List Char) : List Char :=
  (dropEnd ['\r'] line).getD line

/-- The lines of a text.  A line ends at a newline, with or without a carriage return before it;
the last line need not end. -/
def lines (cs : List Char) : List (List Char) :=
  match (splitOn '\n' cs).reverse with
  | [] => []
  | [] :: complete => complete.reverse.map dropReturn
  | last :: complete => complete.reverse.map dropReturn ++ [last]

end GuestConfig.Text
