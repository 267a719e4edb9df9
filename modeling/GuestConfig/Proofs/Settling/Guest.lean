import GuestConfig.Proofs.Frame
import GuestConfig.Proofs.OptionList
import GuestConfig.Proofs.Wire.Settling

/-!
# Settings of the guest that were planned are settled

The agent, the memory, the tags and the TPM of a guest.

## What is here

* `Agent.settles`, `Memory.settles`, `Tags.settles`, `Tpm.settles` — **planning one of these
  settings once more finds nothing to do**, and what is asked for is as much in order as before.
* `Memory.settled`, `Memory.exists_settled` — the memory of a stored object after it was planned.
-/

set_option autoImplicit false

namespace GuestConfig

open OptionList (get?_append get?_optional get?_pair get?_positional isCleanValue_of_isWord
  isClean_append isClean_optional_map isClean_pair isClean_positional parse_text_of_isClean)
open Text (isPlainName isWord isWord_flagText isWord_name splitOnce splitOnce_append)

/-! ## The agent -/

namespace Agent

/-- What is left of the settings when they were written and read: it always says whether there is
an agent. -/
def stored (agent : Agent) : Agent :=
  { agent with enabled := some (agent.enabled.getD false) }

theorem isClean_entries (agent : Agent) : OptionList.IsClean agent.entries := by
  have hflag := isWord_flagText (agent.enabled.getD false)
  simp only [entries, isClean_append]
  refine ⟨⟨⟨isClean_positional (isCleanValue_of_isWord hflag)
      (Text.equals_not_mem_of_isWord hflag) ?_,
    isClean_optional_map (by decide) _ isWord_flagText⟩,
    isClean_optional_map (by decide) _ isWord_flagText⟩,
    isClean_optional_map (by decide) _ (isWord_name (by decide))⟩
  cases agent.enabled.getD false <;> decide

/-- The settings of the agent read back. -/
theorem ofOptions_entries (agent : Agent) : ofOptions (.mk agent.entries) = .ok agent.stored := by
  have henabled : readEnabled (.mk agent.entries) = .ok (some (agent.enabled.getD false)) := by
    have hleading : (OptionList.mk agent.entries).leading? =
        some (flagText (agent.enabled.getD false)) := rfl
    rw [readEnabled, hleading]
    dsimp only
    rw [parseFlag?_flagText]
  have hchannel : (OptionList.mk agent.entries).get? "type" = agent.channel.map Token.name := by
    simp [entries, get?_append, get?_optional, get?_positional]
  have hfreeze : (OptionList.mk agent.entries).get? "freeze-fs-on-backup" =
      agent.freezeOnBackup.map flagText := by
    simp [entries, get?_append, get?_optional, get?_positional]
  have htrim : (OptionList.mk agent.entries).get? "fstrim_cloned_disks" =
      agent.trimCloned.map flagText := by
    simp [entries, get?_append, get?_optional, get?_positional]
  simp only [ofOptions, henabled, OptionList.token?_of_get? hchannel,
    OptionList.flag?_of_get? hfreeze, OptionList.flag?_of_get? htrim, bind, Except.bind, pure,
    Except.pure]
  rfl

/-- Laying the settings over the outcome changes nothing about what is written. -/
theorem text_laidOver_stored (desired base : Agent) :
    (desired.laidOver (desired.laidOver base).stored).text = (desired.laidOver base).text := by
  have henabled :
      (desired.enabled.or (some ((desired.enabled.or base.enabled).getD false))).getD false =
        (desired.enabled.or base.enabled).getD false := by
    cases desired.enabled <;> simp
  have hself {α : Type} (d b : Option α) : d.or (d.or b) = d.or b := by
    cases d <;> simp
  simp only [text, entries, laidOver, stored, henabled, hself]

theorem text_stored (agent : Agent) : agent.stored.text = agent.text := by
  simp [text, entries, stored]

/-- **The settings of the agent are settled.** -/
theorem settles {w w' : Wire} {current desired : Option Agent} (h : ofWire w = .ok current)
    (hafter : w'.Follows .agent (desired.elim [] (plan current)) w) :
    ∃ after, ofWire w' = .ok after ∧ desired.elim [] (plan after) = [] := by
  cases desired with
  | none => exact ⟨current, (ofWire_congr (hafter key rfl)).trans h, rfl⟩
  | some desired =>
    refine Wire.exists_decoded? h (hafter key rfl) ?_
    have hplan : plan (some (desired.laidOver (current.getD { })).stored) desired = [] := by
      simp [plan, text_laidOver_stored, text_stored]
    have hcases : plan current desired = [] ∨
        plan current desired = [.set key (desired.laidOver (current.getD { })).text true] :=
      (Decidable.em _).imp (fun h ↦ if_pos h) fun h ↦ if_neg h
    rw [Option.elim_some]
    rcases hcases with hnil | hset
    · rw [hnil]
      exact hnil
    · have heffect : (plan current desired).effect key =
          .set (.text (desired.laidOver (current.getD { })).text) := by
        simp [hset, Step.effect]
      have hdecode : ofOptions (.parse (desired.laidOver (current.getD { })).text) =
          .ok (desired.laidOver (current.getD { })).stored := by
        rw [text, parse_text_of_isClean (isClean_entries _), ofOptions_entries]
      rw [heffect]
      exact ⟨_, _, rfl, hdecode, hplan⟩

end Agent

/-! ## The tags -/

namespace Tags

theorem isSeparator_of_mem_tag (tag : Tag) {c : Char} (h : c ∈ tag.text.toList) :
    isSeparator c = false := by
  have hchar {c : Char} (h : isTagChar c = true) : isSeparator c = false := by
    cases hsep : isSeparator c with
    | false => rfl
    | true =>
      simp only [isSeparator, Bool.or_eq_true, beq_iff_eq] at hsep
      rcases hsep with (rfl | rfl) | rfl <;> exact absurd h (by decide)
  have haccepted := tag.accepted
  simp only [tagViolation?] at haccepted
  split at haccepted
  · cases haccepted
  · split at haccepted
    · next first rest heq =>
      split at haccepted
      · next hall =>
        rw [Bool.and_eq_true] at hall
        rw [heq] at h
        rcases List.mem_cons.1 h with rfl | h
        · exact hchar (by simp [isTagChar, hall.1])
        · exact hchar (List.all_eq_true.1 hall.2 c h)
      · cases haccepted
    · cases haccepted

theorem tag_ne_nil (tag : Tag) : tag.text.toList ≠ [] := by
  intro hnil
  have haccepted := tag.accepted
  have hempty : tag.text = "" := by simpa using hnil
  rw [hempty] at haccepted
  exact absurd haccepted (by decide)

/-- Tags read back. -/
theorem decode_text {tags : Tags} (hne : tags.toList ≠ []) : decode tags.text = .ok tags := by
  have hpieces : (tags.toList.map Checked.text).map String.toList =
      tags.toList.map fun tag ↦ tag.text.toList := by
    rw [List.map_map]
    rfl
  have hsplit : Text.split isSeparator tags.text.toList =
      tags.toList.map fun tag ↦ tag.text.toList := by
    rw [text, String.toList_intercalate, hpieces]
    have hsemicolon : isSeparator ';' = true := by decide
    refine Text.split_intercalate hsemicolon (by simpa using hne) fun piece hpiece c hc ↦ ?_
    obtain ⟨tag, -, rfl⟩ := List.mem_map.1 hpiece
    exact isSeparator_of_mem_tag tag hc
  have hfilter : (tags.toList.map fun tag ↦ tag.text.toList).filter (!·.isEmpty) =
      tags.toList.map fun tag ↦ tag.text.toList := by
    refine List.filter_eq_self.2 fun piece hpiece ↦ ?_
    obtain ⟨tag, -, rfl⟩ := List.mem_map.1 hpiece
    simpa using tag_ne_nil tag
  have hread : (tags.toList.map fun tag ↦ tag.text.toList).mapM
      (fun piece ↦ (Checked.decode (String.ofList piece) : Except WireError Tag)) =
        .ok tags.toList := by
    rw [mapM_eq_ok_iff, List.map_map]
    refine List.map_congr_left fun tag _ ↦ ?_
    rw [Function.comp_apply, String.ofList_toList, Checked.decode_text]
  rw [decode, hsplit, hfilter, hread]
  exact congrArg Except.ok (SortedSet.ofList_toList tags)

/-- **The tags are settled.** -/
theorem settles {w w' : Wire} {current desired : Option Tags} (h : ofWire w = .ok current)
    (hafter : w'.Follows .tags (plan current desired) w) :
    ∃ after, ofWire w' = .ok after ∧ plan after desired = [] := by
  cases desired with
  | none => exact ⟨current, (ofWire_congr (hafter key rfl)).trans h, rfl⟩
  | some tags =>
    have hkey := hafter key rfl
    unfold plan at hkey
    dsimp only at hkey
    split at hkey
    · next hsame => exact ⟨current, (ofWire_congr hkey).trans h, if_pos hsame⟩
    · split at hkey
      · next hempty =>
        have hnil : tags.toList = [] := List.isEmpty_iff.1 hempty
        have htags : (Option.getD none .empty : Tags) = tags :=
          SortedSet.ext fun tag ↦ iff_of_false (SortedSet.not_mem_empty tag) (by
            simp [SortedSet.mem_iff, hnil])
        refine ⟨none, ?_, if_pos htags⟩
        have hnone : w'.decoded? key decode = .ok none :=
          Wire.field?_of_get?_none (by simpa [Step.effect] using hkey)
        rw [ofWire, hnone]
        rfl
      · next hempty =>
        have hne : tags.toList ≠ [] := fun hnil ↦ hempty (by rw [SortedSet.isEmpty, hnil]; rfl)
        have hsome : w'.decoded? key decode = .ok (some tags) :=
          Wire.decoded?_of_get? (by simpa [Step.effect] using hkey) (decode_text hne)
        refine ⟨some tags, ?_, if_pos rfl⟩
        rw [ofWire, hsome]
        simp [Except.map, Option.filter, hempty]

end Tags

/-! ## The TPM -/

namespace Tpm

/-- A TPM reads back. -/
theorem decode_text {tpm : Tpm} (h : isPlainName tpm.storage = true) :
    decode tpm.text = .ok { tpm with delete := false } := by
  have hvolume : isWord (tpm.storage ++ ":1") = true := by
    rw [Text.isWord_append, Text.isWord_of_isPlainName h]
    decide
  have hclean : OptionList.IsClean tpm.entries :=
    isClean_append.2 ⟨isClean_positional (isCleanValue_of_isWord hvolume)
      (Text.equals_not_mem_of_isWord hvolume) (by simp), isClean_pair (by decide)
      (isCleanValue_of_isWord (isWord_name (by decide) tpm.version))⟩
  have hleading : (OptionList.mk tpm.entries).leading? = some (tpm.storage ++ ":1") := rfl
  have hsplit : splitOnce ':' (tpm.storage ++ ":1").toList = some (tpm.storage.toList, ['1']) := by
    rw [String.toList_append]
    exact splitOnce_append _ (Text.colon_not_mem_of_isPlainName h)
  have hversion : (OptionList.mk tpm.entries).token? "version" = .ok (some tpm.version) :=
    OptionList.token?_of_get? (by simp [entries, get?_append, get?_pair, get?_positional])
  rw [decode, text, parse_text_of_isClean hclean, hleading, Option.bind_some, hsplit]
  simp [hversion, bind, Except.bind, pure, Except.pure]

/-- **The TPM is settled**, and as much in order as before. -/
theorem settles {w w' : Wire} {current desired : Option Tpm} (h : ofWire w = .ok current)
    (hplain : ∀ tpm, desired = some tpm → isPlainName tpm.storage = true)
    (hvalid : ∀ tpm, desired = some tpm → tpm.validate current = .ok ())
    (hafter : w'.Follows .tpm (desired.elim [] (plan current)) w) :
    ∃ after, ofWire w' = .ok after ∧ desired.elim [] (plan after) = [] ∧
      ∀ tpm, desired = some tpm → tpm.validate after = .ok () := by
  cases desired with
  | none => exact ⟨current, (ofWire_congr (hafter key rfl)).trans h, rfl, nofun⟩
  | some desired =>
    have hvalid := hvalid desired rfl
    simp only [Option.elim_some, Option.some.injEq, forall_eq'] at hafter ⊢
    refine Wire.exists_decoded? h (hafter key rfl) ?_
    cases hdelete : desired.delete with
    | true =>
      have hrules (tpm : Option Tpm) : validate tpm desired = .ok () := if_pos hdelete
      cases current with
      | none => simp [plan, hdelete, Effect.Settles, hrules]
      | some tpm => simp [plan, hdelete, Step.effect, Effect.Settles, hrules]
    | false =>
      cases current with
      | none =>
        have hrules : validate (some { desired with delete := false }) desired = .ok () := by
          simp only [validate, hdelete, Bool.false_eq_true, if_false, bind_unit_eq_ok_iff]
            at hvalid ⊢
          exact ⟨hvalid.1, by simp⟩
        have hdecode := decode_text (hplain desired rfl)
        simp [plan, hdelete, Step.effect, Effect.Settles, hdecode, hrules]
      | some tpm => simp [plan, hdelete, Effect.Settles, hvalid]

end Tpm

/-! ## The memory -/

namespace Memory

/-- The rules look at the capacity and the minimum only, after they were laid over. -/
theorem validate_congr {current current' : Option Memory} {desired : Memory}
    (hcapacity : (desired.laidOver (current'.getD { })).capacity =
      (desired.laidOver (current.getD { })).capacity)
    (hminimum : (desired.laidOver (current'.getD { })).minimum =
      (desired.laidOver (current.getD { })).minimum) :
    desired.validate current' = desired.validate current := by
  have heffective : (desired.laidOver (current'.getD { })).effectiveCapacity =
      (desired.laidOver (current.getD { })).effectiveCapacity := by
    rw [effectiveCapacity, effectiveCapacity, hcapacity]
  have hshrink : (desired.laidOver (current'.getD { })).canShrink =
      (desired.laidOver (current.getD { })).canShrink := by
    rw [canShrink, canShrink, hminimum, heffective]
  rw [validate, validate, hminimum, heffective, hshrink]

theorem capacityOfWire_settled {w w' : Wire} {reboot : Bool} {current desired : Option UInt32}
    (h : capacityOfWire w = .ok current)
    (hafter : w'.get? capacityKey = (Draft.effect capacityKey (.setting capacityKey
      (fun n ↦ some (.ofWord n)) reboot current desired)).applyTo (w.get? capacityKey)) :
    capacityOfWire w' = .ok (Draft.settled (fun n ↦ some (.ofWord n)) current desired) := by
  rw [Draft.effect_setting] at hafter
  have hkeep (hsame : w'.get? capacityKey = w.get? capacityKey) :
      capacityOfWire w' = .ok current :=
    (capacityOfWire_congr hsame).trans h
  cases desired with
  | none => exact hkeep hafter
  | some n =>
    dsimp only at hafter
    split at hafter
    · next hsame =>
      rw [hkeep hafter, Draft.settled, if_pos hsame, hsame]
    · next hne =>
      have hword : w'.word? capacityKey = .ok (some n) :=
        Wire.field?_eq_some_iff.2
          ⟨_, hafter, Value.noConfusion, Wire.readWord_ofWord (by decide) capacityKey n⟩
      rw [capacityOfWire, hafter, Draft.settled, if_neg hne]
      exact hword

theorem ofWire_eq_ok_iff {w : Wire} {r : Option Memory} :
    ofWire w = .ok r ↔ (capacityOfWire w = .ok (r.getD { }).capacity ∧
      w.word? minimumKey = .ok (r.getD { }).minimum ∧
      w.word? sharesKey = .ok (r.getD { }).shares) ∧ r ≠ some { } := by
  simp only [ofWire, bind_eq_ok_iff, pure_eq_ok_iff, ite_none_eq_iff]
  constructor
  · rintro ⟨capacity, hcapacity, minimum, hminimum, shares, hshares, hr, hne⟩
    rw [← hr]
    exact ⟨⟨hcapacity, hminimum, hshares⟩, hne⟩
  · rintro ⟨⟨hcapacity, hminimum, hshares⟩, hne⟩
    exact ⟨_, hcapacity, _, hminimum, _, hshares, rfl, hne⟩

/-- The steps for the weight. -/
def planShares (base desired : Memory) : Draft :=
  match desired.shares with
  | some _ => Draft.setting sharesKey Value.ofNonzero false base.shares desired.shares
  | none =>
    if base.shares.any (0 < ·) && !(desired.laidOver base).canShrink then
      [.delete sharesKey false]
    else []

theorem touchesOnly_planShares (base desired : Memory) :
    (planShares base desired).TouchesOnly (· = sharesKey) := by
  unfold planShares
  split
  · exact Draft.touchesOnly_setting _ _ _ _ _ rfl
  · split
    · simp [Draft.touchesOnly_cons, Step.key?]
    · exact Draft.touchesOnly_nil

section effect

variable (current : Option Memory) (desired : Memory)

theorem plan_eq : plan current desired =
    Draft.setting capacityKey (fun n ↦ some (.ofWord n))
        (isShrinking (current.getD { }).capacity desired.capacity) (current.getD { }).capacity
        desired.capacity ++
      Draft.setting minimumKey (fun n ↦ some (.ofWord n)) false (current.getD { }).minimum
        desired.minimum ++
      planShares (current.getD { }) desired := rfl

theorem effect_capacity : (plan current desired).effect capacityKey =
    Draft.effect capacityKey (.setting capacityKey (fun n ↦ some (.ofWord n))
      (isShrinking (current.getD { }).capacity desired.capacity) (current.getD { }).capacity
      desired.capacity) := by
  have hshares : (planShares (current.getD { }) desired).effect capacityKey = .keep :=
    Draft.effect_eq_keep (touchesOnly_planShares _ _) (by decide)
  simp (disch := decide) only [plan_eq, Draft.effect_append, Draft.effect_setting_of_ne, hshares,
    Effect.andThen_keep]

theorem effect_minimum : (plan current desired).effect minimumKey =
    Draft.effect minimumKey (.setting minimumKey (fun n ↦ some (.ofWord n)) false
      (current.getD { }).minimum desired.minimum) := by
  have hshares : (planShares (current.getD { }) desired).effect minimumKey = .keep :=
    Draft.effect_eq_keep (touchesOnly_planShares _ _) (by decide)
  simp (disch := decide) only [plan_eq, Draft.effect_append, Draft.effect_setting_of_ne, hshares,
    Effect.andThen_keep, Effect.keep_andThen]

theorem effect_shares : (plan current desired).effect sharesKey =
    (planShares (current.getD { }) desired).effect sharesKey := by
  simp (disch := decide) only [plan_eq, Draft.effect_append, Draft.effect_setting_of_ne,
    Effect.keep_andThen]

end effect

/-- The outcome for a capacity and a minimum does not depend on the weight that is stored. -/
theorem canShrink_laidOver (desired base : Memory) (shares : Option UInt16) :
    (desired.laidOver { desired.laidOver base with shares := shares }).canShrink =
      (desired.laidOver base).canShrink := by
  obtain ⟨capacity, minimum, -⟩ := desired
  cases capacity <;> cases minimum <;> rfl

/-- The weight after it was planned.  A weight that lost its meaning with the balloon is gone. -/
def settledShares (base desired : Memory) : Option UInt16 :=
  match desired.shares with
  | some _ => Draft.settled Value.ofNonzero base.shares desired.shares
  | none =>
    if base.shares.any (0 < ·) && !(desired.laidOver base).canShrink then none else base.shares

/-- The settings after they were planned. -/
def settled (base desired : Memory) : Memory :=
  { desired.laidOver base with shares := settledShares base desired }

theorem sharesOfWire_settled {w w' : Wire} {base desired : Memory}
    (h : w.word? sharesKey = .ok base.shares)
    (hafter : w'.get? sharesKey =
      ((planShares base desired).effect sharesKey).applyTo (w.get? sharesKey)) :
    w'.word? sharesKey = .ok (settledShares base desired) := by
  obtain ⟨capacity, minimum, _ | n⟩ := desired
  · unfold planShares at hafter
    unfold settledShares
    dsimp only at hafter ⊢
    split at hafter
    · next hleftover =>
      rw [if_pos hleftover]
      exact Wire.field?_of_get?_none (by simpa [Step.effect] using hafter)
    · next hkeep =>
      rw [if_neg hkeep]
      exact (Wire.word?_congr hafter).trans h
  · have hshares : w'.word? sharesKey =
        .ok (Draft.settled Value.ofNonzero base.shares (some n)) :=
      Wire.nonzero?_settled (by decide) h hafter
    exact hshares

/-- The weight is settled. -/
theorem planShares_settled (base desired : Memory) :
    planShares (settled base desired) desired = [] := by
  obtain ⟨capacity, minimum, _ | n⟩ := desired
  · simp only [planShares, settled, canShrink_laidOver, settledShares]
    split <;> rfl
  · exact Draft.setting_settled sharesKey Value.ofNonzero false base.shares (some n)

/-- **The memory of a stored object after it was planned.** -/
theorem exists_settled {w w' : Wire} {current : Option Memory} {desired : Memory}
    (h : ofWire w = .ok current) (hafter : w'.Follows .memory (plan current desired) w) :
    ∃ after, ofWire w' = .ok after ∧ after.getD { } = settled (current.getD { }) desired := by
  obtain ⟨⟨hcapacity, hminimum, hshares⟩, -⟩ := ofWire_eq_ok_iff.1 h
  have hcapacityKey := hafter capacityKey rfl
  have hminimumKey := hafter minimumKey rfl
  have hsharesKey := hafter sharesKey rfl
  rw [effect_capacity] at hcapacityKey
  rw [effect_minimum] at hminimumKey
  rw [effect_shares] at hsharesKey
  have hcapacity' := capacityOfWire_settled hcapacity hcapacityKey
  have hminimum' := Wire.word?_settled (by decide) hminimum hminimumKey
  have hsome (n : UInt32) : (some (Value.ofWord n)).isSome := rfl
  rw [Draft.settled_eq_or hsome] at hcapacity' hminimum'
  obtain ⟨after, hgetD, hne⟩ := exists_getD_eq { } (settled (current.getD { }) desired)
  refine ⟨after, ofWire_eq_ok_iff.2 ⟨?_, hne⟩, hgetD⟩
  rw [hgetD]
  exact ⟨hcapacity', hminimum', sharesOfWire_settled hshares hsharesKey⟩

/-- **The memory is settled**, and as much in order as before. -/
theorem settles {w w' : Wire} {current desired : Option Memory} (h : ofWire w = .ok current)
    (hvalid : ∀ memory, desired = some memory → memory.validate current = .ok ())
    (hafter : w'.Follows .memory (desired.elim [] (plan current)) w) :
    ∃ after, ofWire w' = .ok after ∧ desired.elim [] (plan after) = [] ∧
      ∀ memory, desired = some memory → memory.validate after = .ok () := by
  cases desired with
  | none => exact ⟨current, (ofWire_congr hafter).trans h, rfl, nofun⟩
  | some desired =>
    obtain ⟨after, hok, hgetD⟩ := exists_settled h hafter
    have hself {α : Type} (d b : Option α) : d.or (d.or b) = d.or b := by
      cases d <;> simp
    refine ⟨after, hok, ?_, fun memory hmemory ↦ ?_⟩
    · rw [Option.elim_some, plan_eq, hgetD, planShares_settled]
      simp only [settled, laidOver, Draft.setting_or, List.append_nil]
    · obtain rfl := Option.some.inj hmemory
      have hcongr : desired.validate after = desired.validate current :=
        validate_congr (by simp only [laidOver, hgetD, settled, hself])
          (by simp only [laidOver, hgetD, settled, hself])
      exact hcongr.trans (hvalid desired rfl)

end Memory

end GuestConfig
