import GuestConfig.Proofs.Text.Blank
import GuestConfig.Text.Natural

/-!
# Joining and cutting

What a format joins with a separator is cut at that separator when it is read.  Both are inverse as
long as no piece holds the separator, and the lemmas here say so for the ways of cutting that are in
use.

## What is here

* `splitOn_intercalate`, `split_intercalate` — joined pieces are cut into the same pieces.
* `split_append`, `intercalate_splitOn` — the pieces on both sides of a separator, and all of them.
* `items_intercalate` — the same for lists whose items are trimmed.
* `splitOnce_append`, `splitLast_append`, `splitAt_append` — one cut, at the first or at the last
  separator; `dropEnd_eq_some_iff` — an ending that is cut off.
* `words_intercalate`, `lines_intercalate`, `filter_lines_intercalate` — the words and the lines of
  a text.
* `not_mem_digits` — a number holds no character that is no digit.
-/

set_option autoImplicit false

namespace GuestConfig.Text

/-! ## All pieces -/

/-- **Pieces that were joined are cut into the same pieces.** -/
theorem split_intercalate {p : Char → Bool} {sep : Char} (hsep : p sep = true)
    {pieces : List (List Char)} (hne : pieces ≠ [])
    (h : ∀ piece ∈ pieces, ∀ c ∈ piece, p c = false) :
    split p ([sep].intercalate pieces) = pieces := by
  induction pieces with
  | nil => exact absurd rfl hne
  | cons piece rest ih =>
    have hpiece := h piece List.mem_cons_self
    cases rest with
    | nil => simpa using split_eq_singleton hpiece
    | cons next rest =>
      rw [List.intercalate_cons_cons, List.append_assoc, List.singleton_append,
        split_append_cons _ hpiece hsep,
        ih (List.cons_ne_nil _ _) fun q hq ↦ h q (List.mem_cons_of_mem _ hq)]

theorem splitOn_intercalate {sep : Char} {pieces : List (List Char)} (hne : pieces ≠ [])
    (h : ∀ piece ∈ pieces, sep ∉ piece) : splitOn sep ([sep].intercalate pieces) = pieces := by
  refine split_intercalate (by simp) hne fun piece hpiece c hc ↦ ?_
  have : c ≠ sep := fun e ↦ h piece hpiece (e ▸ hc)
  simpa using this

/-- **Items that were joined read back**: the pieces are trimmed, and empty ones do not count. -/
theorem items_intercalate {sep : Char} {pieces : List (List Char)}
    (h : ∀ piece ∈ pieces, sep ∉ piece ∧ trim piece = piece ∧ piece ≠ []) :
    ((splitOn sep ([sep].intercalate pieces)).map trim).filter (!·.isEmpty) = pieces := by
  by_cases hnil : pieces = []
  · subst hnil
    rfl
  · have htrim : pieces.map trim = pieces := by
      refine (List.map_congr_left fun piece hpiece ↦ ?_).trans (List.map_id pieces)
      exact (h piece hpiece).2.1
    rw [splitOn_intercalate hnil fun piece hpiece ↦ (h piece hpiece).1, htrim]
    exact List.filter_eq_self.2 fun piece hpiece ↦ by simpa using (h piece hpiece).2.2

theorem splitOn_eq_singleton {sep : Char} {cs : List Char} (h : sep ∉ cs) : splitOn sep cs = [cs] :=
  split_eq_singleton fun c hc ↦ by
    have : c ≠ sep := fun e ↦ h (e ▸ hc)
    simpa using this

theorem splitOn_append_cons {sep : Char} {piece : List Char} (rest : List Char) (h : sep ∉ piece) :
    splitOn sep (piece ++ sep :: rest) = piece :: splitOn sep rest :=
  split_append_cons rest (fun c hc ↦ by
    have : c ≠ sep := fun e ↦ h (e ▸ hc)
    simpa using this) (by simp)

/-- **A separator divides the pieces of a text** into those of what stands before it and those of
what stands after it. -/
theorem split_append {p : Char → Bool} {sep : Char} (before after : List Char)
    (hsep : p sep = true) : split p (before ++ sep :: after) = split p before ++ split p after := by
  induction before with
  | nil => simp [split, hsep]
  | cons c before ih =>
    rw [List.cons_append, split, split, ih]
    split
    · rfl
    · cases hbefore : split p before with
      | nil => exact absurd hbefore (split_ne_nil _ before)
      | cons piece rest => rfl

theorem splitOn_append (sep : Char) (before after : List Char) :
    splitOn sep (before ++ sep :: after) = splitOn sep before ++ splitOn sep after :=
  split_append before after (by simp)

/-- **The pieces of a text make up the text.** -/
theorem intercalate_splitOn (sep : Char) (cs : List Char) :
    [sep].intercalate (splitOn sep cs) = cs := by
  induction cs with
  | nil => rfl
  | cons c cs ih =>
    unfold splitOn at ih ⊢
    rw [split]
    cases hsplit : split (· == sep) cs with
    | nil => exact absurd hsplit (split_ne_nil _ cs)
    | cons piece rest =>
      rw [hsplit] at ih
      split
      · next hc =>
        obtain rfl : c = sep := by simpa using hc
        rw [List.intercalate_cons_cons, ih]
        rfl
      · rw [← ih]
        cases rest <;> simp [List.intercalate_cons_cons]

theorem not_mem_of_mem_splitOn {sep : Char} {cs piece : List Char} (h : piece ∈ splitOn sep cs) :
    sep ∉ piece :=
  fun hsep ↦ by simpa using not_of_mem_split h sep hsep

/-! ## One cut -/

theorem splitOnce_append {sep : Char} {before : List Char} (after : List Char)
    (h : sep ∉ before) : splitOnce sep (before ++ sep :: after) = some (before, after) :=
  splitOnce_eq_some_iff.2 ⟨rfl, h⟩

theorem splitLast_append {sep : Char} (before : List Char) {after : List Char}
    (h : sep ∉ after) : splitLast sep (before ++ sep :: after) = some (before, after) := by
  have hreverse : (before ++ sep :: after).reverse = after.reverse ++ sep :: before.reverse := by
    simp
  rw [splitLast, hreverse, splitOnce_append _ (by simpa using h)]
  simp

theorem splitLast_eq_none {sep : Char} {cs : List Char} (h : sep ∉ cs) :
    splitLast sep cs = none := by
  rw [splitLast, splitOnce_eq_none_iff.2 (by simpa using h), Option.map_none]

/-- **An ending is dropped exactly when it is there.** -/
theorem dropEnd_eq_some_iff {ending cs rest : List Char} :
    dropEnd ending cs = some rest ↔ cs = rest ++ ending := by
  rw [dropEnd, Option.map_eq_some_iff]
  constructor
  · rintro ⟨front, hfront, rfl⟩
    simpa using congrArg List.reverse (dropStart_eq_some_iff.1 hfront)
  · rintro rfl
    exact ⟨rest.reverse, by simp, List.reverse_reverse rest⟩

/-- What follows the last separator, or all of a text without any, does not depend on what
stands in front of a separator. -/
theorem getD_splitLast_append (sep : Char) (before after : List Char) :
    ((splitLast sep (before ++ sep :: after)).map (·.2)).getD (before ++ sep :: after) =
      ((splitLast sep after).map (·.2)).getD after := by
  by_cases h : sep ∈ after
  · obtain ⟨last, front, hreverse, hlast⟩ := List.eq_append_cons_of_mem (List.mem_reverse.2 h)
    have hafter : after = front.reverse ++ sep :: last.reverse := by
      simpa using congrArg List.reverse hreverse
    have hall : before ++ sep :: after =
        (before ++ sep :: front.reverse) ++ sep :: last.reverse := by
      simp [hafter]
    rw [hall, splitLast_append _ (by simpa using hlast), hafter,
      splitLast_append _ (by simpa using hlast)]
    rfl
  · rw [splitLast_append _ h, splitLast_eq_none h]
    rfl

/-- **A text is cut at the first occurrence of another one**, which is where that text begins if
its first character does not occur before. -/
theorem splitAt_append {c : Char} {sep before : List Char} (after : List Char) (h : c ∉ before) :
    splitAt (c :: sep) (before ++ (c :: sep) ++ after) = some (before, after) := by
  induction before with
  | nil =>
    have hdrop : dropStart (c :: sep) (c :: (sep ++ after)) = some after :=
      dropStart_append (c :: sep) after
    rw [List.nil_append, List.cons_append, splitAt, hdrop]
  | cons d before ih =>
    obtain ⟨hd, hbefore⟩ := not_or.1 (mt List.mem_cons.2 h)
    have hdrop : dropStart (c :: sep) (d :: (before ++ (c :: sep) ++ after)) = none := by
      rw [dropStart, if_neg hd]
    rw [List.cons_append, List.cons_append, splitAt, hdrop, ih hbefore]
    rfl

/-! ## Words and lines -/

/-- **Words that were joined by a blank are the words of the text.** -/
theorem words_intercalate {pieces : List (List Char)}
    (h : ∀ piece ∈ pieces, piece ≠ [] ∧ ∀ c ∈ piece, isBlank c = false) :
    words ([' '].intercalate pieces) = pieces := by
  by_cases hnil : pieces = []
  · subst hnil
    rfl
  · rw [words, split_intercalate (by decide) hnil fun piece hpiece ↦ (h piece hpiece).2]
    exact List.filter_eq_self.2 fun piece hpiece ↦ by simpa using (h piece hpiece).1

/-- A trimmed line does not end with a carriage return. -/
theorem dropReturn_eq_self {line : List Char} (h : trim line = line) : dropReturn line = line := by
  have hnone : dropEnd ['\r'] line = none := by
    refine Option.eq_none_iff_forall_ne_some.2 fun rest hrest ↦ ?_
    have hlast : line.getLast? = some '\r' := by
      rw [dropEnd_eq_some_iff.1 hrest, List.getLast?_concat]
    exact absurd ((trim_eq_self_iff.1 h).2 _ hlast) (by decide)
  rw [dropReturn, hnone, Option.getD_none]

/-- **Lines that were joined are the lines of the text**, if they are trimmed.  An empty line at the
end is not seen. -/
theorem lines_intercalate {pieces : List (List Char)}
    (h : ∀ piece ∈ pieces, '\n' ∉ piece ∧ trim piece = piece) :
    lines (['\n'].intercalate pieces) = pieces ∨
      pieces = lines (['\n'].intercalate pieces) ++ [[]] := by
  by_cases hnil : pieces = []
  · subst hnil
    exact .inl rfl
  · have hreturn {complete : List (List Char)} (hsub : complete ⊆ pieces) :
        complete.map dropReturn = complete :=
      (List.map_congr_left fun piece hpiece ↦
        dropReturn_eq_self (h piece (hsub hpiece)).2).trans (List.map_id complete)
    rw [lines, splitOn_intercalate hnil fun piece hpiece ↦ (h piece hpiece).1]
    split
    · next heq => exact absurd (List.reverse_eq_nil_iff.1 heq) hnil
    · next complete heq =>
      have hpieces : pieces = complete.reverse ++ [[]] := by
        rw [← List.reverse_reverse pieces, heq, List.reverse_cons]
      rw [hreturn fun piece hpiece ↦ hpieces ▸ List.mem_append_left _ hpiece]
      exact .inr hpieces
    · next last complete _ heq =>
      have hpieces : pieces = complete.reverse ++ [last] := by
        rw [← List.reverse_reverse pieces, heq, List.reverse_cons]
      rw [hreturn fun piece hpiece ↦ hpieces ▸ List.mem_append_left _ hpiece]
      exact .inl hpieces.symm

/-- **Joined lines read back**: they are trimmed, and empty ones do not count. -/
theorem filter_lines_intercalate {pieces : List (List Char)}
    (h : ∀ piece ∈ pieces, '\n' ∉ piece ∧ trim piece = piece) :
    ((lines (['\n'].intercalate pieces)).map trim).filter (!·.isEmpty) =
      pieces.filter (!·.isEmpty) := by
  have htrim {found : List (List Char)} (hsub : found ⊆ pieces) : found.map trim = found :=
    (List.map_congr_left fun piece hpiece ↦ (h piece (hsub hpiece)).2).trans (List.map_id found)
  rcases lines_intercalate h with hlines | hlines
  · rw [hlines, htrim fun piece hpiece ↦ hpiece]
  · have hfilter := congrArg (List.filter (!·.isEmpty)) hlines
    rw [List.filter_append] at hfilter
    rw [htrim fun piece hpiece ↦ hlines ▸ List.mem_append_left _ hpiece, hfilter]
    simp

/-! ## Numbers -/

theorem not_mem_digits {c : Char} (h : c.isDigit = false) (n : Nat) : c ∉ digits n :=
  fun hc ↦ by simp [isDigit_of_mem_digits hc] at h

end GuestConfig.Text
