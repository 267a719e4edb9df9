import GuestConfig.Text.Blank

/-!
# Texts without blanks at their ends

Trimming is what every reader does first, so a written text survives only if trimming leaves it
alone.  The texts that are left alone are exactly those neither of whose ends is blank, and the
result of trimming is always one of them.

## What is here

* `mem_of_mem_trim`, `mem_trim_of_not_isBlank` — trimming adds no character, and takes away blanks
  only.
* `trim_eq_self_iff` — the texts that trimming leaves alone.
* `trim_trim` — a trimmed text is trimmed already.
* `trim_append_cons` — what is joined from two trimmed texts is trimmed.
* `trim_append_cons_eq` — trimming does not reach beyond a character that is no blank;
  `trim_between_blanks` says that blanks around a text do not matter.
-/

set_option autoImplicit false

namespace GuestConfig.Text

theorem isSuffix_trimStart (cs : List Char) : trimStart cs <:+ cs :=
  List.dropWhile_suffix _

theorem isPrefix_trimEnd (cs : List Char) : trimEnd cs <+: cs := by
  have h : cs.reverse.dropWhile isBlank <:+ cs.reverse := List.dropWhile_suffix _
  have h' := List.reverse_prefix.2 h
  rwa [List.reverse_reverse] at h'

theorem mem_of_mem_trim {c : Char} {cs : List Char} (h : c ∈ trim cs) : c ∈ cs :=
  (isSuffix_trimStart cs).subset ((isPrefix_trimEnd _).subset h)

theorem isBlank_of_head?_trimStart {c : Char} {cs : List Char}
    (h : (trimStart cs).head? = some c) : isBlank c = false := by
  have := List.head?_dropWhile_not isBlank cs
  rw [show (cs.dropWhile isBlank).head? = some c from h] at this
  simpa using this

theorem isBlank_of_head?_trim {c : Char} {cs : List Char} (h : (trim cs).head? = some c) :
    isBlank c = false := by
  obtain ⟨rest, hrest⟩ := isPrefix_trimEnd (trimStart cs)
  have hhead : (trimStart cs).head? = some c := by
    rw [← hrest, List.head?_append]
    exact Option.or_of_isSome (by rw [← trim, h]; rfl) |>.trans h
  exact isBlank_of_head?_trimStart hhead

theorem isBlank_of_getLast?_trim {c : Char} {cs : List Char} (h : (trim cs).getLast? = some c) :
    isBlank c = false := by
  rw [trim, trimEnd, List.getLast?_reverse] at h
  exact isBlank_of_head?_trimStart h

/-- **The texts that trimming leaves alone** are those neither of whose ends is blank. -/
theorem trim_eq_self_iff {cs : List Char} :
    trim cs = cs ↔ (∀ c, cs.head? = some c → isBlank c = false) ∧
      ∀ c, cs.getLast? = some c → isBlank c = false := by
  refine ⟨fun h ↦ ⟨fun c hc ↦ ?_, fun c hc ↦ ?_⟩, fun h ↦ trim_eq_self h.1 h.2⟩
  · exact isBlank_of_head?_trim (h.symm ▸ hc)
  · exact isBlank_of_getLast?_trim (h.symm ▸ hc)

@[simp] theorem trim_trim (cs : List Char) : trim (trim cs) = trim cs :=
  trim_eq_self (fun _ ↦ isBlank_of_head?_trim) fun _ ↦ isBlank_of_getLast?_trim

/-- **Two trimmed texts around a character that is no blank make a trimmed text.** -/
theorem trim_append_cons {before after : List Char} {c : Char} (hbefore : trim before = before)
    (hafter : trim after = after) (hc : isBlank c = false) :
    trim (before ++ c :: after) = before ++ c :: after := by
  refine trim_eq_self (fun d hd ↦ ?_) fun d hd ↦ ?_
  · cases before with
    | nil =>
      obtain rfl : c = d := by simpa using hd
      exact hc
    | cons b before => exact (trim_eq_self_iff.1 hbefore).1 d (by simpa using hd)
  · cases hlast : after.getLast? with
    | none =>
      obtain rfl := List.getLast?_eq_none_iff.1 hlast
      obtain rfl : c = d := by simpa using hd
      exact hc
    | some e =>
      have : (before ++ c :: after).getLast? = some e := by
        rw [List.getLast?_append, List.getLast?_cons, hlast]
        rfl
      rw [this] at hd
      exact Option.some.inj hd ▸ (trim_eq_self_iff.1 hafter).2 e hlast

@[simp] theorem trimStart_trimStart (cs : List Char) : trimStart (trimStart cs) = trimStart cs :=
  trimStart_eq_self fun _ ↦ isBlank_of_head?_trimStart

theorem trimStart_append_cons {c : Char} (before after : List Char) (hc : isBlank c = false) :
    trimStart (before ++ c :: after) = trimStart before ++ c :: after := by
  rw [trimStart, trimStart, List.dropWhile_append]
  split
  · next hnil =>
    rw [List.isEmpty_iff.1 hnil, List.dropWhile_cons_of_neg (by simp [hc]), List.nil_append]
  · rfl

/-- **Trimming does not reach beyond a character that is no blank.** -/
theorem trim_append_cons_eq {c : Char} (before after : List Char) (hc : isBlank c = false) :
    trim (before ++ c :: after) = trimStart before ++ c :: trimEnd after := by
  have hreverse : (trimStart before ++ c :: after).reverse =
      after.reverse ++ c :: (trimStart before).reverse := by simp
  rw [trim, trimStart_append_cons before after hc, trimEnd, hreverse]
  have hend := trimStart_append_cons after.reverse (trimStart before).reverse hc
  rw [trimStart] at hend
  rw [hend, trimStart, trimEnd]
  simp

/-- **Blanks around a text do not matter** once it is trimmed. -/
theorem trim_between_blanks {before after : List Char} (cs : List Char)
    (hbefore : ∀ c ∈ before, isBlank c = true) (hafter : ∀ c ∈ after, isBlank c = true) :
    trim (before ++ cs ++ after) = trim cs := by
  have hend (cs : List Char) : trimEnd (cs ++ after) = trimEnd cs := by
    rw [trimEnd, trimEnd, List.reverse_append, List.dropWhile_append_of_pos (by simpa using hafter)]
  rw [trim, trim, List.append_assoc, trimStart, List.dropWhile_append_of_pos hbefore,
    List.dropWhile_append]
  split
  · next hblank =>
    rw [trimStart, List.isEmpty_iff.1 hblank, ← List.append_nil after,
      List.dropWhile_append_of_pos hafter]
    rfl
  · exact hend _

theorem mem_trim_of_not_isBlank {cs : List Char} {c : Char} (h : c ∈ cs) (hc : isBlank c = false) :
    c ∈ trim cs := by
  obtain ⟨before, after, rfl⟩ := List.append_of_mem h
  rw [trim_append_cons_eq before after hc]
  exact List.mem_append_right _ List.mem_cons_self

end GuestConfig.Text
