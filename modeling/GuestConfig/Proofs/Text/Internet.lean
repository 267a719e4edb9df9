import GuestConfig.Proofs.Text.Word
import GuestConfig.Text.Internet

/-!
# Addresses are words

What reads an address takes digits and separators off the front of a text, piece by piece.  So if
nothing is left in the end, the whole text is made of them.

## What is here

* `all_of_afterIpv4?`, `all_of_groups` — a text is a word if what is left of it is one.
* `isWord_of_isIpv4`, `isWord_of_isIpv6`, `isWord_of_isNetwork` — **addresses and networks are
  words.**
-/

set_option autoImplicit false

namespace GuestConfig.Text

variable {cs rest : List Char}

/-! ## Pieces at the front -/

/-- A text whose front and whose rest are made of word characters. -/
private theorem all_of_drop {p : Char → Bool} (hp : ∀ c, p c = true → isWordChar c = true)
    (hrest : (cs.drop (cs.takeWhile p).length).all isWordChar = true) :
    cs.all isWordChar = true := by
  have hfront : cs.take (cs.takeWhile p).length = cs.takeWhile p :=
    (List.prefix_iff_eq_take.1 (List.takeWhile_prefix p)).symm
  rw [← List.take_append_drop (cs.takeWhile p).length cs, List.all_append, hrest, hfront,
    Bool.and_true]
  exact List.all_eq_true.2 fun c hc ↦ hp c (List.all_eq_true.1 (List.all_takeWhile) c hc)

theorem all_of_afterOctet? (h : afterOctet? cs = some rest) (hrest : rest.all isWordChar = true) :
    cs.all isWordChar = true := by
  simp only [afterOctet?] at h
  split at h
  · cases h
  · obtain rfl := Option.some.inj h
    exact all_of_drop (fun c hc ↦ isWordChar_of_isAlphanum (isAlphanum_of_isDigit hc)) hrest

theorem all_of_afterGroup? (h : afterGroup? cs = some rest) (hrest : rest.all isWordChar = true) :
    cs.all isWordChar = true := by
  simp only [afterGroup?] at h
  split at h
  · cases h
  · obtain rfl := Option.some.inj h
    exact all_of_drop (fun c hc ↦ isWordChar_of_isHexDigit hc) hrest

theorem all_of_after? {c : Char} (hc : isWordChar c = true) (h : after? c cs = some rest)
    (hrest : rest.all isWordChar = true) : cs.all isWordChar = true := by
  unfold after? at h
  split at h
  · split at h
    · next heq =>
      obtain rfl := Option.some.inj h
      rw [← heq, List.all_cons, hc, hrest]
      rfl
    · cases h
  · cases h

/-! ## Version 4 -/

/-- **An address of version 4 at the front is made of word characters.** -/
theorem all_of_afterIpv4? (h : afterIpv4? cs = some rest) (hrest : rest.all isWordChar = true) :
    cs.all isWordChar = true := by
  simp only [afterIpv4?, Option.bind_eq_bind, Option.bind_eq_some_iff] at h
  obtain ⟨_, h₁, _, h₂, _, h₃, _, h₄, _, h₅, _, h₆, h₇⟩ := h
  have hpoint : isWordChar '.' = true := by decide
  exact all_of_afterOctet? h₁ <| all_of_after? hpoint h₂ <| all_of_afterOctet? h₃ <|
    all_of_after? hpoint h₄ <| all_of_afterOctet? h₅ <| all_of_after? hpoint h₆ <|
    all_of_afterOctet? h₇ hrest

theorem all_of_isIpv4 (h : isIpv4 cs = true) : cs.all isWordChar = true :=
  all_of_afterIpv4? (beq_iff_eq.1 h) rfl

/-! ## Version 6 -/

theorem all_of_afterColon? {isFirst : Bool} (h : afterColon? isFirst cs = some rest)
    (hrest : rest.all isWordChar = true) : cs.all isWordChar = true := by
  unfold afterColon? at h
  split at h
  · exact Option.some.inj h ▸ hrest
  · exact all_of_after? (by decide) h hrest

/-- **Groups at the front are made of word characters.** -/
theorem all_of_groups (isFirst : Bool) (limit : Nat)
    (hrest : (groups isFirst limit cs).rest.all isWordChar = true) : cs.all isWordChar = true := by
  induction limit generalizing isFirst cs with
  | zero => exact hrest
  | succ limit ih =>
    simp only [groups] at hrest
    split at hrest
    · next rest embedded hembedded =>
      split at hembedded
      · cases hembedded
      · obtain ⟨_, hcolon, hipv4⟩ := Option.bind_eq_some_iff.1 hembedded
        exact all_of_afterColon? hcolon (all_of_afterIpv4? hipv4 hrest)
    · next rest _ hgroup =>
      obtain ⟨_, hcolon, hgroup⟩ := Option.bind_eq_some_iff.1 hgroup
      exact all_of_afterColon? hcolon (all_of_afterGroup? hgroup (ih _ hrest))
    · exact hrest

theorem all_of_isIpv6 (h : isIpv6 cs = true) : cs.all isWordChar = true := by
  simp only [isIpv6] at h
  refine all_of_groups true 8 ?_
  split at h
  · rw [List.isEmpty_iff.1 h]
    rfl
  · split at h
    · cases h
    · split at h
      · next rest hdrop =>
        have htail : rest.all isWordChar = true :=
          all_of_groups true _ (by rw [List.isEmpty_iff.1 h]; rfl)
        rw [dropStart_eq_some_iff.1 hdrop, List.all_append, htail]
        decide
      · cases h

/-! ## Networks -/

theorem all_of_word? {α : Type} [Word α] {n : α} (h : word? cs = some n) :
    cs.all isWordChar = true := by
  obtain ⟨_, hnatural, -⟩ := Option.bind_eq_some_iff.1 h
  have hdigits := (natural?_eq_some_iff.1 hnatural).2.1
  have hall : (unsigned cs).all isWordChar = true :=
    List.all_eq_true.2 fun c hc ↦
      isWordChar_of_isAlphanum (isAlphanum_of_isDigit (List.all_eq_true.1 hdigits c hc))
  unfold unsigned at hall
  split at hall
  · rw [List.all_cons, hall]
    decide
  · exact hall

theorem isWord_of_isIpv4 {s : String} (h : isIpv4 s.toList = true) : isWord s = true :=
  all_of_isIpv4 h

theorem isWord_of_isIpv6 {s : String} (h : isIpv6 s.toList = true) : isWord s = true :=
  all_of_isIpv6 h

/-- **A network is a word if its address is one.** -/
theorem isWord_of_isNetwork {isAddress : List Char → Bool} {bits : Nat} {s : String}
    (haddress : ∀ cs, isAddress cs = true → cs.all isWordChar = true)
    (h : isNetwork isAddress bits s.toList = true) : isWord s = true := by
  unfold isNetwork at h
  split at h
  · next address size hsplit =>
    obtain ⟨haddr, hsize⟩ := Bool.and_eq_true_iff.1 h
    obtain ⟨n, hn, -⟩ := (Option.any_eq_true _ _).1 hsize
    exact all_of_splitOnce hsplit (by decide) (haddress address haddr) (all_of_word? hn)
  · cases h

end GuestConfig.Text
