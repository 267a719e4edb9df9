import GuestConfig.Cpu.Flag
import GuestConfig.Proofs.Sorted
import GuestConfig.Proofs.Text.Word

/-!
# CPU flags read back

Flags that are returned to what the model has are not written, and so they are not there when the
others are read back.  That makes no difference for what is written the next time.

## What is here

* `CpuFlags.get?_laidOver` — flags on top of others, one by one.
* `CpuFlags.shown` — the flags that are on or off, which are those that are written.
* `CpuFlags.parse_text?` — **the flags that are on or off read back.**
* `CpuFlags.shown_laidOver_shown` — the flags that are not written do not count.
-/

set_option autoImplicit false

namespace GuestConfig.CpuFlags

open Text (isWord items_intercalate splitOn trim)

/-! ## Flags one by one -/

theorem get?_laidOver (flags base : CpuFlags) (flag : CpuFlag) :
    (flags.laidOver base).get? flag = (flags.get? flag).or (base.get? flag) :=
  SortedMap.get?_laidOver flags base flag

/-- The flags that are on or off. -/
def shown (flags : CpuFlags) : CpuFlags :=
  flags.filterValues fun state ↦ state.sign?.isSome

theorem get?_shown (flags : CpuFlags) (flag : CpuFlag) :
    flags.shown.get? flag = (flags.get? flag).filter fun state ↦ state.sign?.isSome :=
  SortedMap.get?_filterValues _ _ _

/-- **Flags that are neither on nor off do not count when others are laid on top.** -/
theorem shown_laidOver_shown (flags base : CpuFlags) :
    (flags.laidOver (flags.laidOver base).shown).shown = (flags.laidOver base).shown := by
  refine SortedMap.ext fun flag ↦ ?_
  simp only [get?_shown, get?_laidOver]
  cases flags.get? flag with
  | some state => rfl
  | none => cases base.get? flag <;> simp [Option.filter_filter]

/-! ## Texts -/

theorem text?_shown (flags : CpuFlags) : flags.shown.text? = flags.text? := by
  have hitems : flags.shown.toList.filterMap entryText? = flags.toList.filterMap entryText? := by
    rw [shown, SortedMap.filterValues]
    dsimp only
    rw [List.filterMap_filter]
    refine congrArg (List.filterMap · flags.toList) (funext fun e ↦ ?_)
    cases h : e.2.sign? <;> simp [entryText?, h]
  rw [text?, text?, hitems]

theorem shown_eq_empty {flags : CpuFlags} (h : flags.text? = none) : flags.shown = .empty := by
  refine SortedMap.ext fun flag ↦ ?_
  rw [get?_shown, SortedMap.get?_empty, Option.filter_eq_none_iff]
  intro state hstate hsign
  obtain ⟨sign, hsign⟩ := Option.isSome_iff_exists.1 hsign
  have hitem : entryText? (flag, state) = some (sign.toString ++ Token.name flag) := by
    rw [entryText?, hsign]
    rfl
  have hmem := List.mem_filterMap.2 ⟨_, flags.mem_toList_iff.2 hstate, hitem⟩
  unfold text? at h
  dsimp only at h
  split at h
  · next hempty =>
    rw [List.isEmpty_iff.1 hempty] at hmem
    cases hmem
  · cases h

/-- One item is read as the flag that it was written for. -/
theorem read_entryText? (e : CpuFlag × FlagState) :
    ((entryText? e).bind fun item ↦
      (Token.ofName? (String.ofList (mention item.toList).2)).map fun flag ↦
        (flag, (mention item.toList).1)) = if e.2.sign?.isSome then some e else none := by
  obtain ⟨flag, state⟩ := e
  have hitem (sign : Char) :
      (sign.toString ++ Token.name flag).toList = sign :: (Token.name flag).toList := by
    simp
  cases state with
  | enabled =>
    simp only [entryText?, FlagState.sign?, Option.map_some, Option.bind_some, hitem, mention,
      String.ofList_toList, Token.ofName?_name]
    rfl
  | disabled =>
    simp only [entryText?, FlagState.sign?, Option.map_some, Option.bind_some, hitem, mention,
      String.ofList_toList, Token.ofName?_name]
    rfl
  | unset => rfl

theorem isItem_of_entryText? {e : CpuFlag × FlagState} {item : String}
    (h : entryText? e = some item) :
    ';' ∉ item.toList ∧ trim item.toList = item.toList ∧ item.toList ≠ [] ∧ isWord item = true := by
  obtain ⟨flag, state⟩ := e
  cases state with
  | unset => cases h
  | enabled =>
    obtain rfl := Option.some.inj h
    cases flag <;> decide
  | disabled =>
    obtain rfl := Option.some.inj h
    cases flag <;> decide

theorem isWord_text? {flags : CpuFlags} {s : String} (h : flags.text? = some s) :
    isWord s = true := by
  unfold text? at h
  dsimp only at h
  split at h
  · cases h
  · obtain rfl := Option.some.inj h
    refine Text.isWord_intercalate (by decide) fun item hitem ↦ ?_
    obtain ⟨e, -, he⟩ := List.mem_filterMap.1 hitem
    exact (isItem_of_entryText? he).2.2.2

/-- **The flags that are on or off read back.** -/
theorem parse_text? {flags : CpuFlags} {s : String} (h : flags.text? = some s) :
    parse s = flags.shown := by
  unfold text? at h
  dsimp only at h
  split at h
  · cases h
  · obtain rfl := Option.some.inj h
    have hitems : ((splitOn ';' (String.intercalate ";" (flags.toList.filterMap entryText?)).toList
        ).map trim).filter (!·.isEmpty) =
          (flags.toList.filterMap entryText?).map String.toList := by
      rw [String.toList_intercalate]
      refine items_intercalate fun piece hpiece ↦ ?_
      obtain ⟨item, hitem, rfl⟩ := List.mem_map.1 hpiece
      obtain ⟨e, -, he⟩ := List.mem_filterMap.1 hitem
      obtain ⟨hseparator, htrim, hne, -⟩ := isItem_of_entryText? he
      exact ⟨hseparator, htrim, hne⟩
    have hread : (flags.toList.filterMap entryText?).filterMap (fun item ↦
        (Token.ofName? (String.ofList (mention item.toList).2)).map fun flag ↦
          (flag, (mention item.toList).1)) = flags.shown.toList := by
      rw [List.filterMap_filterMap, shown, SortedMap.filterValues]
      simp only [read_entryText?]
      rw [← List.filterMap_eq_filter]
      rfl
    rw [parse, hitems, List.filterMap_map]
    exact (congrArg SortedMap.ofList hread).trans (SortedMap.ofList_toList _)

end GuestConfig.CpuFlags
