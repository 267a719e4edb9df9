import GuestConfig.CloudInit.Addressing
import GuestConfig.Proofs.OptionList
import GuestConfig.Proofs.Outcome
import GuestConfig.Proofs.Text.Internet

/-!
# Addressing reads back

The ways of getting an address share an option with the address itself, so that only one of them is
stored.  Asking for the same once more leaves that one as it is.

## What is here

* `Addressing.text_congr` — what the text of addressing depends on.
* `Addressing.stored` and `Addressing.decode_text` — **addressing reads back.**
* `Addressing.text_laidOver_stored` — what is asked for once more changes nothing.
* `Addressing.IsStorable` — addressing whose texts can be stored: what is in order, what was read,
  and what one of them results in on top of the other.
-/

set_option autoImplicit false

namespace GuestConfig.Addressing

open OptionList (IsClean IsCleanValue get?_append get?_optional isClean_append isClean_optional
  isCleanValue_of_isWord parse_text_of_isClean)
open Text (isIpv4 isIpv6 isNetwork isWord)

/-! ## The parts of the text -/

/-- The text of addressing depends on the two ways and on the two gateways only. -/
theorem text_congr {a b : Addressing} (hmode4 : a.ipv4Mode? = b.ipv4Mode?)
    (hgateway4 : nonempty? a.ipv4Gateway = nonempty? b.ipv4Gateway)
    (hmode6 : a.ipv6Mode? = b.ipv6Mode?)
    (hgateway6 : nonempty? a.ipv6Gateway = nonempty? b.ipv6Gateway) : a.text = b.text := by
  rw [text, text, entries, entries, hmode4, hgateway4, hmode6, hgateway6]

theorem ipv4Mode?_over6 (a b : Addressing) : (a.over6 b).ipv4Mode? = b.ipv4Mode? := by
  unfold over6
  split <;> rfl

theorem ipv4Gateway_over6 (a b : Addressing) : (a.over6 b).ipv4Gateway = b.ipv4Gateway := by
  unfold over6
  split <;> rfl

theorem ipv6Mode?_over6_over4 (a b c : Addressing) :
    (a.over6 (b.over4 c)).ipv6Mode? = (a.over6 c).ipv6Mode? := by
  unfold over6 over4
  repeat' split
  all_goals rfl

theorem ipv6Gateway_over6_over4 (a b c : Addressing) :
    (a.over6 (b.over4 c)).ipv6Gateway = (a.over6 c).ipv6Gateway := by
  unfold over6 over4
  repeat' split
  all_goals rfl

theorem nonempty?_nonempty? (s : Option String) : nonempty? (nonempty? s) = nonempty? s := by
  simp [nonempty?, Option.filter_filter]

theorem nonempty?_ipv4Mode? (a : Addressing) : nonempty? a.ipv4Mode? = a.ipv4Mode? := by
  unfold ipv4Mode?
  split
  · rfl
  · exact nonempty?_nonempty? _

theorem nonempty?_ipv6Mode? (a : Addressing) : nonempty? a.ipv6Mode? = a.ipv6Mode? := by
  unfold ipv6Mode?
  split
  · rfl
  · split
    · rfl
    · exact nonempty?_nonempty? _

/-! ## Stored addressing -/

/-- What addressing is read as. -/
def stored (a : Addressing) : Addressing :=
  ofOptions (.mk a.entries)

/-- **Addressing reads back.** -/
theorem decode_text {a : Addressing} (h : IsClean a.entries) : decode a.text = .ok a.stored := by
  rw [decode, text, parse_text_of_isClean h, stored]

theorem get?_entries (a : Addressing) :
    (OptionList.mk a.entries).get? "ip" = a.ipv4Mode? ∧
      (OptionList.mk a.entries).get? "gw" = nonempty? a.ipv4Gateway ∧
      (OptionList.mk a.entries).get? "ip6" = a.ipv6Mode? ∧
      (OptionList.mk a.entries).get? "gw6" = nonempty? a.ipv6Gateway := by
  simp [entries, get?_append, get?_optional]

theorem ipv4Mode?_stored (a : Addressing) : a.stored.ipv4Mode? = a.ipv4Mode? := by
  have hmode := nonempty?_ipv4Mode? a
  simp only [stored, ofOptions, get?_entries]
  generalize a.ipv4Mode? = mode at hmode
  cases mode with
  | none => rfl
  | some s =>
    by_cases h : s = "dhcp"
    · subst h
      rfl
    · simpa [ipv4Mode?, h, Option.filter_some] using hmode

theorem ipv6Mode?_stored (a : Addressing) : a.stored.ipv6Mode? = a.ipv6Mode? := by
  have hmode := nonempty?_ipv6Mode? a
  simp only [stored, ofOptions, get?_entries]
  generalize a.ipv6Mode? = mode at hmode
  cases mode with
  | none => rfl
  | some s =>
    by_cases hdhcp : s = "dhcp"
    · subst hdhcp
      rfl
    · by_cases hauto : s = "auto"
      · subst hauto
        rfl
      · simpa [ipv6Mode?, hdhcp, hauto, Option.filter_some] using hmode

theorem ipv4Gateway_stored (a : Addressing) : a.stored.ipv4Gateway = nonempty? a.ipv4Gateway :=
  (get?_entries a).2.1

theorem ipv6Gateway_stored (a : Addressing) : a.stored.ipv6Gateway = nonempty? a.ipv6Gateway :=
  (get?_entries a).2.2.2

theorem text_stored (a : Addressing) : a.stored.text = a.text :=
  text_congr (ipv4Mode?_stored a) (by rw [ipv4Gateway_stored, nonempty?_nonempty?])
    (ipv6Mode?_stored a) (by rw [ipv6Gateway_stored, nonempty?_nonempty?])

/-! ## Asking once more -/

/-- The way of version 4 that results depends on the way in effect only. -/
theorem ipv4Mode?_over4_congr (desired : Addressing) {a b : Addressing}
    (h : a.ipv4Mode? = b.ipv4Mode?) :
    (desired.over4 a).ipv4Mode? = (desired.over4 b).ipv4Mode? := by
  unfold over4
  split
  · rfl
  · cases haddress : desired.ipv4Address with
    | some s => simp [ipv4Mode?]
    | none => simpa [ipv4Mode?] using h

theorem ipv6Mode?_over6_congr (desired : Addressing) {a b : Addressing}
    (h : a.ipv6Mode? = b.ipv6Mode?) :
    (desired.over6 a).ipv6Mode? = (desired.over6 b).ipv6Mode? := by
  unfold over6
  split
  · rfl
  · cases haddress : desired.ipv6Address with
    | some s => simp [ipv6Mode?]
    | none => simpa [ipv6Mode?] using h

theorem ipv4Gateway_over4_congr (desired : Addressing) {a b : Addressing}
    (h : nonempty? a.ipv4Gateway = nonempty? b.ipv4Gateway) :
    nonempty? (desired.over4 a).ipv4Gateway = nonempty? (desired.over4 b).ipv4Gateway := by
  unfold over4
  split
  · rfl
  · cases hgateway : desired.ipv4Gateway with
    | some s => rfl
    | none => simpa using h

theorem ipv6Gateway_over6_congr (desired : Addressing) {a b : Addressing}
    (h : nonempty? a.ipv6Gateway = nonempty? b.ipv6Gateway) :
    nonempty? (desired.over6 a).ipv6Gateway = nonempty? (desired.over6 b).ipv6Gateway := by
  unfold over6
  split
  · rfl
  · cases hgateway : desired.ipv6Gateway with
    | some s => rfl
    | none => simpa using h

theorem over4_over4 (desired base : Addressing) :
    desired.over4 (desired.over4 base) = desired.over4 base := by
  cases hdhcp : desired.ipv4Dhcp <;> cases haddress : desired.ipv4Address <;>
  cases hgateway : desired.ipv4Gateway <;> simp [over4, hdhcp, haddress, hgateway]

theorem over6_over6 (desired base : Addressing) :
    desired.over6 (desired.over6 base) = desired.over6 base := by
  cases hauto : desired.ipv6Dhcp || desired.ipv6Slaac <;> cases haddress : desired.ipv6Address <;>
  cases hgateway : desired.ipv6Gateway <;> simp [over6, hauto, haddress, hgateway]

/-- **What is asked for once more changes nothing.** -/
theorem text_laidOver_stored (desired base : Addressing) :
    (desired.laidOver (desired.laidOver base).stored).text = (desired.laidOver base).text := by
  generalize hmerged : desired.laidOver base = merged
  have hmode4 : (desired.over4 merged.stored).ipv4Mode? = merged.ipv4Mode? := by
    rw [ipv4Mode?_over4_congr desired (ipv4Mode?_stored merged), ← hmerged, laidOver,
      ipv4Mode?_over4_congr desired (ipv4Mode?_over6 desired _), over4_over4, ipv4Mode?_over6]
  have hgateway4 : nonempty? (desired.over4 merged.stored).ipv4Gateway =
      nonempty? merged.ipv4Gateway := by
    have hstored : nonempty? merged.stored.ipv4Gateway = nonempty? merged.ipv4Gateway := by
      rw [ipv4Gateway_stored, nonempty?_nonempty?]
    rw [ipv4Gateway_over4_congr desired hstored, ← hmerged, laidOver,
      ipv4Gateway_over4_congr desired (congrArg nonempty? (ipv4Gateway_over6 desired _)),
      over4_over4, ipv4Gateway_over6]
  have hmode6 : (desired.over6 merged.stored).ipv6Mode? = merged.ipv6Mode? := by
    rw [ipv6Mode?_over6_congr desired (ipv6Mode?_stored merged), ← hmerged, laidOver, over6_over6]
  have hgateway6 : nonempty? (desired.over6 merged.stored).ipv6Gateway =
      nonempty? merged.ipv6Gateway := by
    have hstored : nonempty? merged.stored.ipv6Gateway = nonempty? merged.ipv6Gateway := by
      rw [ipv6Gateway_stored, nonempty?_nonempty?]
    rw [ipv6Gateway_over6_congr desired hstored, ← hmerged, laidOver, over6_over6]
  refine text_congr ?_ ?_ ?_ ?_
  · rw [laidOver, ipv4Mode?_over6, hmode4]
  · rw [laidOver, ipv4Gateway_over6, hgateway4]
  · rw [laidOver, ipv6Mode?_over6_over4, hmode6]
  · rw [laidOver, ipv6Gateway_over6_over4, hgateway6]

/-! ## Clean addressing -/

/-- Addressing whose texts can be stored as options. -/
structure IsStorable (a : Addressing) : Prop where
  address4 (s : String) : a.ipv4Address = some s → IsCleanValue s
  gateway4 (s : String) : a.ipv4Gateway = some s → IsCleanValue s
  address6 (s : String) : a.ipv6Address = some s → IsCleanValue s
  gateway6 (s : String) : a.ipv6Gateway = some s → IsCleanValue s

theorem isStorable_empty : IsStorable { } := by
  constructor <;> exact nofun

/-- Addressing that is in order can be stored. -/
theorem isStorable_of_validate {a : Addressing} (h : a.validate = .ok ()) : a.IsStorable := by
  simp only [validate, bind_unit_eq_ok_iff, requireOf_eq_ok_iff, require_eq_ok_iff] at h
  obtain ⟨-, -, -, -, haddress4, hgateway4, haddress6, hgateway6⟩ := h
  -- an empty text is clean as well, but it is no address
  have hclean {setting : Option String} (hword : ∀ s, nonempty? setting = some s → isWord s = true)
      (s : String) (hs : setting = some s) : IsCleanValue s := by
    by_cases hempty : s = ""
    · rw [hempty]
      exact isCleanValue_of_isWord (by decide)
    · exact isCleanValue_of_isWord (hword s (by simp [nonempty?, hs, hempty]))
  exact ⟨hclean fun s hs ↦ Text.isWord_of_isNetwork (fun _ ↦ Text.all_of_isIpv4) (haddress4 s hs),
    hclean fun s hs ↦ Text.isWord_of_isIpv4 (hgateway4 s hs),
    hclean fun s hs ↦ Text.isWord_of_isNetwork (fun _ ↦ Text.all_of_isIpv6) (haddress6 s hs),
    hclean fun s hs ↦ Text.isWord_of_isIpv6 (hgateway6 s hs)⟩

/-- Addressing that was read can be stored. -/
theorem isStorable_of_decode {s : String} {a : Addressing} (h : decode s = .ok a) :
    a.IsStorable := by
  obtain rfl := Except.ok.inj h
  have hget {name value : String} (h : (OptionList.parse s).get? name = some value) :
      IsCleanValue value :=
    (OptionList.isCleanValue_of_mem_parse (OptionList.exists_of_get? h)).1
  exact ⟨fun _ hs ↦ hget (Option.filter_eq_some_iff.1 hs).1, fun _ hs ↦ hget hs,
    fun _ hs ↦ hget (Option.filter_eq_some_iff.1 hs).1, fun _ hs ↦ hget hs⟩

theorem IsStorable.laidOver {desired base : Addressing} (hdesired : desired.IsStorable)
    (hbase : base.IsStorable) : (desired.laidOver base).IsStorable := by
  have hor {p : String → Prop} {d b : Option String} (hd : ∀ s, d = some s → p s)
      (hb : ∀ s, b = some s → p s) (s : String) (h : d.or b = some s) : p s := by
    cases d with
    | some d => exact hd s h
    | none => exact hb s h
  have h4 : (desired.over4 base).IsStorable := by
    unfold over4
    split
    · exact ⟨nofun, nofun, hbase.address6, hbase.gateway6⟩
    · exact ⟨hor hdesired.address4 hbase.address4, hor hdesired.gateway4 hbase.gateway4,
        hbase.address6, hbase.gateway6⟩
  unfold Addressing.laidOver over6
  split
  · exact ⟨h4.address4, h4.gateway4, nofun, nofun⟩
  · exact ⟨h4.address4, h4.gateway4, hor hdesired.address6 h4.address6,
      hor hdesired.gateway6 h4.gateway6⟩

/-- The options of such addressing are clean. -/
theorem IsStorable.isClean_entries {a : Addressing} (h : a.IsStorable) : IsClean a.entries := by
  have hnonempty {setting : Option String} (hsetting : ∀ s, setting = some s → IsCleanValue s)
      (s : String) (hs : nonempty? setting = some s) : IsCleanValue s :=
    hsetting s (Option.filter_eq_some_iff.1 hs).1
  have hmode4 (s : String) (hs : a.ipv4Mode? = some s) : IsCleanValue s := by
    unfold ipv4Mode? at hs
    split at hs
    · obtain rfl := Option.some.inj hs
      exact isCleanValue_of_isWord (by decide)
    · exact hnonempty h.address4 s hs
  have hmode6 (s : String) (hs : a.ipv6Mode? = some s) : IsCleanValue s := by
    unfold ipv6Mode? at hs
    split at hs
    · obtain rfl := Option.some.inj hs
      exact isCleanValue_of_isWord (by decide)
    · split at hs
      · obtain rfl := Option.some.inj hs
        exact isCleanValue_of_isWord (by decide)
      · exact hnonempty h.address6 s hs
  simp only [entries, isClean_append]
  exact ⟨⟨⟨isClean_optional (by decide) hmode4,
    isClean_optional (by decide) (hnonempty h.gateway4)⟩,
    isClean_optional (by decide) hmode6⟩,
    isClean_optional (by decide) (hnonempty h.gateway6)⟩

end GuestConfig.Addressing
