import GuestConfig.Proofs.Cpu.Flag
import Mathlib.Data.List.Basic

/-!
# Lists of CPU flags

A list of flags may mention a flag more than once, with and without a sign, and flags that nobody
knows; items may be empty and have blanks around them.  What counts of all this is the last mention
of every flag.  What is written is a list too, with one mention of every flag that is on or off, in
the order of the flags.

## What is here

* `CpuFlags.Mention` — an item of a list, and `CpuFlags.Lists` — the lists, with all that does not
  count.
* `CpuFlags.parse_eq_of_lists` — a list is read as its mentions.
* `CpuFlags.get?_parse_of_lists` — **the last mention of a flag counts.**
* `CpuFlags.toList_eq`, `CpuFlags.text?_parse_of_lists` — flags are written in their order.
* `CpuFlags.switched?`, `CpuFlags.isSome_text?` — the flags that are on or off, and when they are
  written at all.
* `CpuFlags.parse_isCanonical` — **lists of flags are read and written canonically.**
-/

set_option autoImplicit false

namespace GuestConfig.CpuFlags

open Text (isBlank splitOn splitOn_intercalate trim trim_append_cons trim_between_blanks
  trim_nil)

/-! ## Mentions -/

/-- A mention of a flag: a name, known or not, after a sign or none. -/
inductive Mention where
  /-- A name after a plus sign. -/
  | plus (name : List Char)
  /-- A name after a minus sign. -/
  | minus (name : List Char)
  /-- A name alone. -/
  | bare (name : List Char)

namespace Mention

/-- The name that is mentioned. -/
def name : Mention → List Char
  | plus name => name
  | minus name => name
  | bare name => name

/-- The mention as it stands in a list. -/
def text : Mention → List Char
  | plus name => '+' :: name
  | minus name => '-' :: name
  | bare name => name

/-- What is asked of the flag; a name alone switches it on. -/
def state : Mention → FlagState
  | plus _ => .enabled
  | minus _ => .disabled
  | bare _ => .enabled

/-- The sign that the flag is written with. -/
def sign : Mention → String
  | plus _ => "+"
  | minus _ => "-"
  | bare _ => "+"

/-- A mention whose name can be told from what is around it. -/
structure IsPlain (m : Mention) : Prop where
  separator : ';' ∉ m.name
  trimmed : trim m.name = m.name
  plus : m.name.head? ≠ some '+'
  minus : m.name.head? ≠ some '-'

instance (m : Mention) : Decidable m.IsPlain :=
  decidable_of_iff (';' ∉ m.name ∧ trim m.name = m.name ∧ m.name.head? ≠ some '+' ∧
      m.name.head? ≠ some '-')
    ⟨fun h ↦ ⟨h.1, h.2.1, h.2.2.1, h.2.2.2⟩, fun h ↦ ⟨h.separator, h.trimmed, h.plus, h.minus⟩⟩

variable {m : Mention}

theorem separator_not_mem_text (h : m.IsPlain) : ';' ∉ m.text := by
  cases m with
  | plus name => exact List.not_mem_cons_of_ne_of_not_mem (by decide) h.separator
  | minus name => exact List.not_mem_cons_of_ne_of_not_mem (by decide) h.separator
  | bare name => exact h.separator

theorem trim_text (h : m.IsPlain) : trim m.text = m.text := by
  cases m with
  | plus name => exact trim_append_cons (c := '+') trim_nil h.trimmed (by decide)
  | minus name => exact trim_append_cons (c := '-') trim_nil h.trimmed (by decide)
  | bare name => exact h.trimmed

/-- A mention is read as what it is. -/
theorem mention_text (h : m.IsPlain) : mention m.text = (m.state, m.name) := by
  cases m with
  | plus name => rfl
  | minus name => rfl
  | bare name =>
    unfold mention
    split
    · next heq => exact absurd (congrArg List.head? heq) h.plus
    · next heq => exact absurd (congrArg List.head? heq) h.minus
    · rfl

/-- The flag that is mentioned, with its state, if it is known. -/
def known? (m : Mention) : Option (CpuFlag × FlagState) :=
  (Token.ofName? (String.ofList m.name)).map fun flag ↦ (flag, m.state)

/-- The mention is of a given flag. -/
def IsOf (flag : CpuFlag) (m : Mention) : Prop :=
  m.name = (Token.name flag).toList

instance (flag : CpuFlag) : DecidablePred (IsOf flag) := fun m ↦
  inferInstanceAs (Decidable (m.name = (Token.name flag).toList))

theorem known?_eq_some_iff {flag : CpuFlag} {state : FlagState} :
    m.known? = some (flag, state) ↔ m.IsOf flag ∧ m.state = state := by
  simp only [known?, Option.map_eq_some_iff, Token.ofName?_eq_some_iff, Prod.mk.injEq]
  constructor
  · rintro ⟨_, hname, rfl, hstate⟩
    exact ⟨by rw [IsOf, hname, String.toList_ofList], hstate⟩
  · rintro ⟨hname, hstate⟩
    exact ⟨flag, by rw [hname, String.ofList_toList], rfl, hstate⟩

theorem known?_eq_none_of_text_eq_nil (h : m.text = []) : m.known? = none := by
  cases m with
  | plus name => cases h
  | minus name => cases h
  | bare name =>
    obtain rfl : name = [] := h
    rfl

end Mention

/-! ## Lists -/

/-- A list in pieces, and what is mentioned in it: every piece is blank, or a mention between
blanks. -/
inductive Lists : List (List Char) → List Mention → Prop
  /-- Nothing is left. -/
  | nil : Lists [] []
  /-- Nothing is mentioned. -/
  | blank {piece : List Char} {pieces : List (List Char)} {ms : List Mention}
      (hpiece : ∀ c ∈ piece, isBlank c = true) (hrest : Lists pieces ms) :
      Lists (piece :: pieces) ms
  /-- A flag is mentioned. -/
  | mention {before after : List Char} {m : Mention} {pieces : List (List Char)}
      {ms : List Mention} (hbefore : ∀ c ∈ before, isBlank c = true) (hplain : m.IsPlain)
      (hafter : ∀ c ∈ after, isBlank c = true) (hrest : Lists pieces ms) :
      Lists ((before ++ m.text ++ after) :: pieces) (m :: ms)

section lists

variable {pieces : List (List Char)} {ms : List Mention}

theorem Lists.separator_not_mem (h : Lists pieces ms) : ∀ piece ∈ pieces, ';' ∉ piece := by
  have hblank {cs : List Char} (hcs : ∀ c ∈ cs, isBlank c = true) : ';' ∉ cs :=
    fun hc ↦ absurd (hcs _ hc) (by decide)
  induction h with
  | nil => exact fun _ hnil ↦ absurd hnil List.not_mem_nil
  | blank hpiece hrest ih => exact List.forall_mem_cons.2 ⟨hblank hpiece, ih⟩
  | mention hbefore hplain hafter hrest ih =>
    refine List.forall_mem_cons.2 ⟨fun hmem ↦ ?_, ih⟩
    simp only [List.mem_append] at hmem
    rcases hmem with (hmem | hmem) | hmem
    · exact hblank hbefore hmem
    · exact Mention.separator_not_mem_text hplain hmem
    · exact hblank hafter hmem

/-- What is left of the pieces without blanks are the mentions. -/
theorem Lists.filter_map_trim (h : Lists pieces ms) :
    (pieces.map trim).filter (!·.isEmpty) = (ms.map Mention.text).filter (!·.isEmpty) := by
  induction h with
  | nil => rfl
  | @blank piece _ _ hpiece hrest ih =>
    have hempty : trim (piece ++ [] ++ []) = trim [] := trim_between_blanks [] hpiece nofun
    rw [List.append_nil, List.append_nil] at hempty
    rw [List.map_cons, hempty]
    exact ih
  | mention hbefore hplain hafter hrest ih =>
    rw [List.map_cons, trim_between_blanks _ hbefore hafter, Mention.trim_text hplain,
      List.map_cons, List.filter_cons, List.filter_cons, ih]

theorem Lists.isPlain (h : Lists pieces ms) : ∀ m ∈ ms, m.IsPlain := by
  induction h with
  | nil => exact fun _ hnil ↦ absurd hnil List.not_mem_nil
  | blank hpiece hrest ih => exact ih
  | mention hbefore hplain hafter hrest ih => exact List.forall_mem_cons.2 ⟨hplain, ih⟩

/-- **A list is read as its mentions.** -/
theorem parse_eq_of_lists (h : Lists pieces ms) {s : String}
    (hs : s.toList = [';'].intercalate pieces) :
    parse s = .ofList (ms.filterMap Mention.known?) := by
  have hpieces : ((splitOn ';' s.toList).map trim).filter (!·.isEmpty) =
      (ms.map Mention.text).filter (!·.isEmpty) := by
    rw [hs]
    by_cases hnil : pieces = []
    · subst hnil
      cases h
      rfl
    · rw [splitOn_intercalate hnil h.separator_not_mem, h.filter_map_trim]
  rw [parse, hpieces, List.filterMap_filter, List.filterMap_map]
  refine congrArg SortedMap.ofList (List.filterMap_congr fun m hm ↦ ?_)
  rw [Function.comp_apply]
  split
  · rw [Mention.mention_text (h.isPlain m hm)]
    rfl
  · next hempty => rw [Mention.known?_eq_none_of_text_eq_nil (by simpa using hempty)]

/-- The last mention of a flag. -/
def lastMention (ms : List Mention) (flag : CpuFlag) : Option Mention :=
  ms.reverse.find? (Mention.IsOf flag ·)

/-- **The last mention of a flag counts.** -/
theorem get?_parse_of_lists (h : Lists pieces ms) {s : String}
    (hs : s.toList = [';'].intercalate pieces) (flag : CpuFlag) :
    (parse s).get? flag = (lastMention ms flag).map Mention.state := by
  have hof (m : Mention) : m.known?.any (·.1 = flag) = decide (m.IsOf flag) := by
    rw [Bool.eq_iff_iff, Option.any_eq_true, decide_eq_true_iff]
    simp only [decide_eq_true_iff, Prod.exists, Mention.known?_eq_some_iff]
    simp
  rw [parse_eq_of_lists h hs, SortedMap.get?_ofList, ← List.filterMap_reverse,
    List.find?_filterMap, lastMention]
  simp only [hof]
  cases hlast : ms.reverse.find? fun m ↦ m.IsOf flag with
  | none => rfl
  | some m =>
    have hm : m.IsOf flag := by simpa using List.find?_some hlast
    rw [Option.bind_some, Mention.known?_eq_some_iff.2 ⟨hm, rfl⟩]
    rfl

end lists

/-! ## Writing -/

/-- **Flags are written in their order.** -/
theorem toList_eq (flags : CpuFlags) :
    flags.toList = (Token.members : List CpuFlag).filterMap fun flag ↦
      (flags.get? flag).map fun state ↦ (flag, state) := by
  have hmembers : (Token.members : List CpuFlag).Pairwise (· < ·) := by decide
  refine SortedMap.Entries.eq_of_mem_iff flags.sorted (hmembers.filterMap _ ?_) fun e ↦ ?_
  · intro flag flag' hlt e he e' he'
    obtain ⟨state, -, rfl⟩ := Option.map_eq_some_iff.1 he
    obtain ⟨state', -, rfl⟩ := Option.map_eq_some_iff.1 he'
    exact hlt
  · obtain ⟨flag, state⟩ := e
    rw [flags.mem_toList_iff, List.mem_filterMap]
    constructor
    · intro hget
      exact ⟨flag, Token.complete flag, by rw [hget]; rfl⟩
    · rintro ⟨flag', -, hstate⟩
      obtain ⟨state', hget, heq⟩ := Option.map_eq_some_iff.1 hstate
      obtain ⟨rfl, rfl⟩ := Prod.mk.inj heq
      exact hget

/-- The flags of a list as they are written: one mention of every flag, in the order of the
flags. -/
def rendered (ms : List Mention) : List String :=
  (Token.members : List CpuFlag).filterMap fun flag ↦
    (lastMention ms flag).map fun m ↦ m.sign ++ Token.name flag

/-- **What was read is written with one mention of every flag.** -/
theorem text?_parse_of_lists {pieces : List (List Char)} {ms : List Mention}
    (h : Lists pieces ms) {s : String} (hs : s.toList = [';'].intercalate pieces) :
    (parse s).text? =
      if (rendered ms).isEmpty then none else some (String.intercalate ";" (rendered ms)) := by
  have hitems : (parse s).toList.filterMap entryText? = rendered ms := by
    rw [toList_eq, List.filterMap_filterMap, rendered]
    refine List.filterMap_congr fun flag _ ↦ ?_
    rw [get?_parse_of_lists h hs, Option.map_map]
    cases lastMention ms flag with
    | none => rfl
    | some m => cases m <;> rfl
  rw [text?, hitems]

/-- The state of a flag that is on or off. -/
def switched? (flags : CpuFlags) (flag : CpuFlag) : Option FlagState :=
  (flags.get? flag).filter (· ≠ .unset)

/-- Whether some flag is on or off. -/
def isSwitched (flags : CpuFlags) : Bool :=
  (Token.members : List CpuFlag).any fun flag ↦ (flags.switched? flag).isSome

theorem isSwitched_congr {flags flags' : CpuFlags}
    (h : ∀ flag, flags.switched? flag = flags'.switched? flag) :
    flags.isSwitched = flags'.isSwitched := by
  rw [isSwitched, isSwitched]
  simp only [h]

theorem get?_shown_eq_switched? (flags : CpuFlags) (flag : CpuFlag) :
    flags.shown.get? flag = flags.switched? flag := by
  rw [get?_shown, switched?]
  refine congrArg ((flags.get? flag).filter ·) (funext fun state ↦ ?_)
  cases state <;> rfl

@[simp] theorem shown_shown (flags : CpuFlags) : flags.shown.shown = flags.shown :=
  SortedMap.ext fun flag ↦ by simp [get?_shown, Option.filter_filter]

theorem shown_eq_iff {flags flags' : CpuFlags} :
    flags.shown = flags'.shown ↔ ∀ flag, flags.switched? flag = flags'.switched? flag := by
  simp only [← get?_shown_eq_switched?]
  exact ⟨fun h _ ↦ h ▸ rfl, SortedMap.ext⟩

/-- **Flags are written exactly if one of them is on or off.** -/
theorem isSome_text? (flags : CpuFlags) : flags.text?.isSome = flags.isSwitched := by
  have hnone : flags.text? = none ↔ ∀ flag, flags.switched? flag = none := by
    refine ⟨fun h flag ↦ ?_, fun h ↦ ?_⟩
    · rw [← get?_shown_eq_switched?, shown_eq_empty h]
      rfl
    · have hshown : flags.shown = .empty :=
        SortedMap.ext fun flag ↦ (get?_shown_eq_switched? flags flag).trans (h flag)
      rw [← text?_shown, hshown]
      rfl
  rw [Bool.eq_iff_iff, isSwitched, List.any_eq_true, Option.isSome_iff_ne_none, Ne, hnone,
    Classical.not_forall]
  exact exists_congr fun flag ↦
    (and_iff_right (Token.complete flag)).symm.trans (by rw [Option.isSome_iff_ne_none])

/-- **Lists of flags are read and written canonically.**  Every flag that a list mentions has the
state of its last mention, and no other flag has one; what was read is written with one mention of
every such flag, in the order of the flags.  Flags that are written read back, but for those that
are unset. -/
theorem parse_isCanonical :
    (∀ (pieces : List (List Char)) (ms : List Mention) (s : String), Lists pieces ms →
      s.toList = [';'].intercalate pieces →
      (∀ flag, (parse s).get? flag = (lastMention ms flag).map Mention.state) ∧
      (parse s).text? =
        if (rendered ms).isEmpty then none else some (String.intercalate ";" (rendered ms))) ∧
    ∀ flags : CpuFlags, (∃ flag state, flags.get? flag = some state ∧ state ≠ .unset) →
      ∃ t, flags.text? = some t ∧
        ∀ flag, (parse t).get? flag = (flags.get? flag).filter (· ≠ .unset) := by
  refine ⟨fun pieces ms s h hs ↦ ⟨get?_parse_of_lists h hs, text?_parse_of_lists h hs⟩,
    fun flags ⟨flag, state, hget, hne⟩ ↦ ?_⟩
  have hswitched : flags.isSwitched = true :=
    List.any_eq_true.2 ⟨flag, Token.complete flag, by simp [switched?, hget, hne]⟩
  obtain ⟨t, ht⟩ := Option.isSome_iff_exists.1 ((isSome_text? flags).trans hswitched)
  exact ⟨t, ht, fun flag ↦ by rw [parse_text? ht, get?_shown_eq_switched?, switched?]⟩

/-- A list that repeats and contradicts itself, and mentions a flag that nobody knows. -/
def repeatedFlags : List (List Char) :=
  [[' '] ++ (Mention.plus "aes".toList).text ++ [' '], [],
    [] ++ (Mention.minus "pcid".toList).text ++ [],
    [] ++ (Mention.bare "frobnicate".toList).text ++ [' '],
    [' '] ++ (Mention.bare "md-clear".toList).text ++ [],
    [] ++ (Mention.minus "aes".toList).text ++ []]

/-- Flags are repeated, contradict each other, and are not known; and one is unset. -/
theorem parse_isCanonical_of_repeated :
    [';'].intercalate repeatedFlags = " +aes ;;-pcid;frobnicate ; md-clear;-aes".toList ∧
    (parse " +aes ;;-pcid;frobnicate ; md-clear;-aes").get? .aes = some .disabled ∧
    (parse " +aes ;;-pcid;frobnicate ; md-clear;-aes").text? = some "+md-clear;-pcid;-aes" ∧
    ∃ t, text? (.ofList [(.aes, .enabled), (.pcid, .unset)]) = some t ∧
      (parse t).get? .aes = some .enabled ∧ (parse t).get? .pcid = none := by
  have hblank : ∀ c ∈ [' '], isBlank c = true := List.forall_mem_singleton.2 (by decide)
  have hplain : (Mention.plus "aes".toList).IsPlain ∧ (Mention.minus "pcid".toList).IsPlain ∧
      (Mention.bare "frobnicate".toList).IsPlain ∧ (Mention.bare "md-clear".toList).IsPlain ∧
        (Mention.minus "aes".toList).IsPlain := by
    decide +kernel
  obtain ⟨haes, hpcid, hunknown, hmdClear, haes'⟩ := hplain
  have hlists : Lists repeatedFlags [.plus "aes".toList, .minus "pcid".toList,
      .bare "frobnicate".toList, .bare "md-clear".toList, .minus "aes".toList] :=
    .mention hblank haes hblank <| .blank nofun <| .mention nofun hpcid nofun <|
      .mention nofun hunknown hblank <| .mention hblank hmdClear nofun <|
        .mention nofun haes' nofun .nil
  have htext : " +aes ;;-pcid;frobnicate ; md-clear;-aes".toList =
      [';'].intercalate repeatedFlags := by decide +kernel
  obtain ⟨hread, hwritten⟩ := parse_isCanonical.1 _ _ _ hlists htext
  obtain ⟨t, ht, hback⟩ := parse_isCanonical.2 (.ofList [(.aes, .enabled), (.pcid, .unset)])
    ⟨.aes, .enabled, rfl, nofun⟩
  exact ⟨htext.symm, hread .aes, hwritten, t, ht, hback .aes, hback .pcid⟩

end GuestConfig.CpuFlags
