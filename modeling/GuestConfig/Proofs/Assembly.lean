import GuestConfig.Proofs.OptionList

/-!
# Option lists, however they were put together

A list of options is put together one addition after the other: an entry without a name, an option,
an option that may be absent, a flag that is written in one of its two states only.  Each of them
gives one entry or none, and what is read of the text of a list are these entries in their order.

The text is cut three times, at commas, at the first `=` of a piece, and at the blanks around both
sides of it, and pieces with nothing in them are dropped.  A text that was cut like this has nothing
left to cut, which is why it does not matter where a list comes from: one that was read from any
text at all may be written anew as well.

## What is here

* `Addition` — the ways of adding to a list, and `Addition.says?`, what each of them adds.
* `Addition.IsClean` — the additions that survive being written and read.
* `OptionList.assemble` — a list from its additions; `OptionList.parse_text_assemble` says that it
  reads back.
* `Addition.ofEntry`, `OptionList.isClean_ofEntry_of_mem_parse` — the additions that write a list
  anew.
* `OptionList.assembly_readsBack` — **an option list reads back**, put together or read.
-/

set_option autoImplicit false

namespace GuestConfig

/-! ## Additions -/

/-- One addition to a list of options. -/
inductive Addition where
  /-- An entry without a name. -/
  | positional (value : String)
  /-- An option. -/
  | pair (name value : String)
  /-- An option that may be absent. -/
  | optional (name : String) (value : Option String)
  /-- An option that is written when it is set. -/
  | flag (name : String) (set : Bool)
  /-- An option that is written when it is not set. -/
  | unsetFlag (name : String) (set : Bool)
  deriving DecidableEq, Repr

namespace Addition

open OptionList (IsCleanName IsCleanValue)

/-- The entries that are added. -/
def entries : Addition → List Entry
  | positional value => OptionList.positional value
  | pair name value => OptionList.pair name value
  | optional name value => OptionList.optional name value
  | flag name set => OptionList.flag name set
  | unsetFlag name set => OptionList.unsetFlag name set

/-- What an addition says, if it says anything. -/
def says? : Addition → Option Entry
  | positional value => some ⟨none, value⟩
  | pair name value => some ⟨some name, value⟩
  | optional name (some value) => some ⟨some name, value⟩
  | optional _ none => none
  | flag name true => some ⟨some name, "1"⟩
  | flag _ false => none
  | unsetFlag _ true => none
  | unsetFlag name false => some ⟨some name, "0"⟩

theorem entries_eq (a : Addition) : a.entries = a.says?.toList := by
  cases a with
  | positional value => rfl
  | pair name value => rfl
  | optional name value => cases value <;> rfl
  | flag name set => cases set <;> rfl
  | unsetFlag name set => cases set <;> rfl

/-- An addition that survives being written and read.  Only an entry without a name may not be
empty. -/
def IsClean : Addition → Prop
  | positional value => IsCleanName value ∧ value ≠ ""
  | pair name value => IsCleanName name ∧ IsCleanValue value
  | optional name value => IsCleanName name ∧ ∀ s, value = some s → IsCleanValue s
  | flag name _ => IsCleanName name
  | unsetFlag name _ => IsCleanName name

/-- What a clean addition gives is a clean list. -/
theorem IsClean.isClean_entries {a : Addition} (h : a.IsClean) : OptionList.IsClean a.entries := by
  have hpair {name value : String} (hname : IsCleanName name) (hvalue : IsCleanValue value) :
      OptionList.IsClean (OptionList.pair name value) :=
    OptionList.isClean_pair_of_isClean (hname.isClean_entry hvalue)
  cases a with
  | positional value =>
    exact OptionList.isClean_positional ⟨h.1.comma, h.1.trimmed⟩ h.1.equals h.2
  | pair name value => exact hpair h.1 h.2
  | optional name value =>
    cases value with
    | none => exact OptionList.isClean_nil
    | some s => exact hpair h.1 (h.2 s rfl)
  | flag name set =>
    cases set with
    | false => exact OptionList.isClean_nil
    | true => exact hpair h (OptionList.isCleanValue_of_isWord (by decide))
  | unsetFlag name set =>
    cases set with
    | false => exact hpair h (OptionList.isCleanValue_of_isWord (by decide))
    | true => exact OptionList.isClean_nil

/-- The addition that writes an entry. -/
def ofEntry (e : Entry) : Addition :=
  match e.name with
  | some name => pair name e.value
  | none => positional e.value

@[simp] theorem says?_ofEntry (e : Entry) : (ofEntry e).says? = some e := by
  obtain ⟨name, value⟩ := e
  cases name <;> rfl

end Addition

/-! ## Lists -/

namespace OptionList

variable {additions : List Addition}

/-- The list that is put together by one addition after the other. -/
def assemble (additions : List Addition) : OptionList :=
  ⟨additions.flatMap Addition.entries⟩

/-- A list holds what its additions say, in their order. -/
theorem entries_assemble (additions : List Addition) :
    (assemble additions).entries = additions.filterMap Addition.says? := by
  rw [List.filterMap_eq_flatMap_toList, assemble]
  exact congrArg (List.flatMap · additions) (funext Addition.entries_eq)

/-- **A list of clean additions reads back.** -/
theorem parse_text_assemble (h : ∀ a ∈ additions, a.IsClean) :
    parse (assemble additions).text = assemble additions := by
  refine parse_text_of_isClean fun e he ↦ ?_
  obtain ⟨a, ha, hmem⟩ := List.mem_flatMap.1 he
  exact (h a ha).isClean_entries e hmem

/-- **What was read is clean**, so it may be written anew. -/
theorem isClean_ofEntry_of_mem_parse {s : String} {e : Entry} (h : e ∈ (parse s).entries) :
    (Addition.ofEntry e).IsClean := by
  obtain ⟨hvalue, hunnamed⟩ := isCleanValue_of_mem_parse h
  unfold Addition.ofEntry
  split
  · next name hname => exact ⟨isCleanName_of_mem_parse h hname, hvalue⟩
  · next hname =>
    obtain ⟨hequals, hne⟩ := hunnamed hname
    exact ⟨⟨hvalue.comma, hequals, hvalue.trimmed⟩, hne⟩

theorem assemble_map_ofEntry (options : OptionList) :
    assemble (options.entries.map Addition.ofEntry) = options := by
  have hsays : Addition.says? ∘ Addition.ofEntry = some := funext Addition.says?_ofEntry
  have hentries := entries_assemble (options.entries.map Addition.ofEntry)
  rw [List.filterMap_map, hsays, List.filterMap_some] at hentries
  exact congrArg mk hentries

/-- **An option list reads back.**  A list of clean additions is read as what they say, in their
order, and under a name the first of the options with that name is found; and what is read of any
text is read again when it is written anew. -/
theorem assembly_readsBack :
    (∀ additions : List Addition, (∀ a ∈ additions, a.IsClean) →
      (parse (assemble additions).text).entries = additions.filterMap Addition.says? ∧
        ∀ name value, (parse (assemble additions).text).get? name = some value ↔
          ∃ before after,
            additions.filterMap Addition.says? = before ++ ⟨some name, value⟩ :: after ∧
              ∀ e ∈ before, e.name ≠ some name) ∧
    ∀ s : String, parse (assemble ((parse s).entries.map Addition.ofEntry)).text = parse s := by
  refine ⟨fun additions h ↦ ?_, fun s ↦ ?_⟩
  · rw [parse_text_assemble h, ← entries_assemble]
    exact ⟨rfl, fun name value ↦ get?_eq_some_iff⟩
  · have hclean : ∀ a ∈ (parse s).entries.map Addition.ofEntry, a.IsClean := by
      intro a ha
      obtain ⟨e, he, rfl⟩ := List.mem_map.1 ha
      exact isClean_ofEntry_of_mem_parse he
    rw [parse_text_assemble hclean, assemble_map_ofEntry]

/-- A drive with a value that has a `=` in it, one that is empty, and a name that is given twice. -/
def repeatingAdditions : List Addition :=
  [.positional "local-lvm:32", .optional "cache" none, .pair "user" "local:snippets/a=b.yml",
    .flag "ssd" false, .flag "iothread" true, .unsetFlag "backup" false, .pair "user" ""]

theorem isClean_repeatingAdditions : ∀ a ∈ repeatingAdditions, a.IsClean := by
  have hname {name : String} (h : Text.isWord name = true) : IsCleanName name :=
    isCleanName_of_isWord h
  simp only [repeatingAdditions, List.forall_mem_cons]
  exact ⟨⟨hname (by decide), by decide⟩, ⟨hname (by decide), nofun⟩,
    ⟨hname (by decide), ⟨by decide, by decide⟩⟩, hname (by decide), hname (by decide),
    hname (by decide), ⟨hname (by decide), ⟨by decide, by decide⟩⟩, nofun⟩

/-- The value that was given first is found, all of it. -/
theorem assembly_readsBack_of_repeating :
    (assemble repeatingAdditions).text =
        "local-lvm:32,user=local:snippets/a=b.yml,iothread=1,backup=0,user=" ∧
      (parse (assemble repeatingAdditions).text).entries =
        repeatingAdditions.filterMap Addition.says? ∧
      (parse (assemble repeatingAdditions).text).get? "user" = some "local:snippets/a=b.yml" ∧
      parse (assemble ((parse " a ,, b = c=d ,=").entries.map Addition.ofEntry)).text =
        parse " a ,, b = c=d ,=" :=
  have h := assembly_readsBack.1 repeatingAdditions isClean_repeatingAdditions
  ⟨by decide +kernel, h.1,
    (h.2 "user" "local:snippets/a=b.yml").2
      ⟨[⟨none, "local-lvm:32"⟩], [⟨some "iothread", "1"⟩, ⟨some "backup", "0"⟩, ⟨some "user", ""⟩],
        by decide, by decide⟩,
    assembly_readsBack.2 _⟩

end OptionList

end GuestConfig
