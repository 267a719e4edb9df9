import GuestConfig.OptionList
import GuestConfig.Proofs.Text.Blank
import GuestConfig.Proofs.Text.Word

/-!
# Option lists read back

A list of options is written by joining its entries with commas.  It reads back as the same list as
long as no part of an entry holds what it is cut at or loses a blank: such entries are *clean*.
What readers ask for is then a matter of look-ups in the list that was written, and a list is put
together from pieces that each give one option or none.

## What is here

* `Entry.IsClean` and `OptionList.parse_text` — **a list of clean entries reads back**; entries
  without any text are lost.
* `Entry.exists_isClean_of_equals` — a text with a `=` is written like an option with a name.
* `OptionList.IsClean` and `OptionList.parse_text_of_isClean` — the case without such entries, with
  one lemma for each way of putting a list together.
* `OptionList.get?_eq_some_iff` — what is found under a name; `OptionList.get?_append` and one lemma
  for each way of putting a list together say so for a list that is made of parts.
* `OptionList.head?_splitOn_text` — what stands first in a written list.
* `OptionList.isCleanName_of_mem_parse`, `OptionList.isCleanValue_of_mem_parse` — what was read is
  clean.
-/

set_option autoImplicit false

namespace GuestConfig

open Text (isBlank isWord splitOn splitOn_append_cons splitOn_eq_singleton splitOn_intercalate
  splitOnce splitOnce_append splitOnce_eq_none_iff splitOnce_eq_some_iff trim trim_append_cons)

/-! ## Clean entries -/

namespace Entry

/-- An entry that survives being written and read: a name has neither comma nor `=`, a value has no
comma and, without a name, no `=`, and neither of them has blanks at its ends. -/
structure IsClean (e : Entry) : Prop where
  comma : ',' ∉ e.value.toList
  trimmed : trim e.value.toList = e.value.toList
  unnamed : e.name = none → '=' ∉ e.value.toList
  name (name : String) : e.name = some name →
    ',' ∉ name.toList ∧ '=' ∉ name.toList ∧ trim name.toList = name.toList

theorem toList_text (e : Entry) :
    e.text.toList =
      match e.name with
      | some name => name.toList ++ '=' :: e.value.toList
      | none => e.value.toList := by
  cases h : e.name <;> simp [text, h]

theorem IsClean.comma_not_mem_text {e : Entry} (h : e.IsClean) : ',' ∉ e.text.toList := by
  rw [toList_text]
  split
  · next name hname => simp [(h.name name hname).1, h.comma]
  · exact h.comma

theorem IsClean.trim_text {e : Entry} (h : e.IsClean) : trim e.text.toList = e.text.toList := by
  rw [toList_text]
  split
  · next name hname => exact trim_append_cons (h.name name hname).2.2 h.trimmed (by decide)
  · exact h.trimmed

/-- **A clean entry reads back.** -/
theorem IsClean.parse_text {e : Entry} (h : e.IsClean) : parse e.text.toList = e := by
  obtain ⟨name, value⟩ := e
  rw [toList_text]
  cases name with
  | none =>
    dsimp only
    rw [parse, splitOnce_eq_none_iff.2 (h.unnamed rfl)]
    simp
  | some name =>
    dsimp only
    obtain ⟨-, heq, htrim⟩ := h.name name rfl
    rw [parse, splitOnce_append _ heq]
    dsimp only
    rw [htrim, h.trimmed, String.ofList_toList, String.ofList_toList]

/-- **A text with a `=`, but neither commas nor blanks, is written like an option with a name.** -/
theorem exists_isClean_of_equals {s : String} (h : '=' ∈ s.toList)
    (hs : ∀ c ∈ s.toList, c ≠ ',' ∧ isBlank c = false) :
    ∃ name value, s = name ++ "=" ++ value ∧ (mk (some name) value).IsClean := by
  obtain ⟨⟨name, value⟩, hsplit⟩ :=
    Option.ne_none_iff_exists'.1 (mt splitOnce_eq_none_iff.1 (not_not_intro h))
  obtain ⟨htext, hequals⟩ := splitOnce_eq_some_iff.1 hsplit
  have hname (c : Char) (hc : c ∈ name) : c ≠ ',' ∧ isBlank c = false :=
    hs c (htext ▸ List.mem_append_left _ hc)
  have hvalue (c : Char) (hc : c ∈ value) : c ≠ ',' ∧ isBlank c = false :=
    hs c (htext ▸ List.mem_append_right _ (List.mem_cons_of_mem _ hc))
  refine ⟨String.ofList name, String.ofList value, ?_, ?_, ?_,
    fun hnone ↦ (Option.some_ne_none _ hnone).elim, fun other hother ↦ ?_⟩
  · rw [← String.toList_inj, htext]
    simp
  · rw [String.toList_ofList]
    exact fun hc ↦ (hvalue _ hc).1 rfl
  · rw [String.toList_ofList]
    exact Text.trim_eq_self_of_all fun c hc ↦ (hvalue c hc).2
  · obtain rfl := Option.some.inj hother
    rw [String.toList_ofList]
    exact ⟨fun hc ↦ (hname _ hc).1 rfl, hequals,
      Text.trim_eq_self_of_all fun c hc ↦ (hname c hc).2⟩

end Entry

namespace OptionList

theorem toList_text (options : OptionList) :
    options.text.toList = [','].intercalate (options.entries.map fun e ↦ e.text.toList) := by
  rw [text, String.toList_intercalate, List.map_map]
  rfl

/-- **A list of clean entries reads back**, but for entries without any text. -/
theorem parse_text {entries : List Entry} (h : ∀ e ∈ entries, e.IsClean) :
    parse (mk entries).text = mk (entries.filter fun e ↦ !e.text.toList.isEmpty) := by
  rw [parse, toList_text]
  dsimp only
  cases entries with
  | nil => rfl
  | cons first rest =>
    have hsplit : splitOn ',' ([','].intercalate ((first :: rest).map fun e ↦ e.text.toList)) =
        (first :: rest).map fun e ↦ e.text.toList := by
      refine splitOn_intercalate (by simp) fun piece hpiece ↦ ?_
      obtain ⟨e, he, rfl⟩ := List.mem_map.1 hpiece
      exact (h e he).comma_not_mem_text
    rw [hsplit, List.map_map]
    generalize first :: rest = entries at h
    congr 1
    induction entries with
    | nil => rfl
    | cons e rest ih =>
      have he := h e List.mem_cons_self
      have ih := ih fun e he ↦ h e (List.mem_cons_of_mem _ he)
      rw [List.map_cons, List.filterMap_cons, List.filter_cons, Function.comp_apply, he.trim_text,
        ih]
      cases hempty : e.text.toList.isEmpty with
      | true => simp
      | false => simp [he.parse_text]

/-! ## Clean lists -/

/-- A value that survives being written and read. -/
structure IsCleanValue (value : String) : Prop where
  comma : ',' ∉ value.toList
  trimmed : trim value.toList = value.toList

/-- A name that survives being written and read, or an entry that does without a name. -/
structure IsCleanName (name : String) : Prop where
  comma : ',' ∉ name.toList
  equals : '=' ∉ name.toList
  trimmed : trim name.toList = name.toList

theorem IsCleanName.isClean_entry {name value : String} (hname : IsCleanName name)
    (hvalue : IsCleanValue value) : (Entry.mk (some name) value).IsClean := by
  refine ⟨hvalue.comma, hvalue.trimmed, nofun, fun other hother ↦ ?_⟩
  obtain rfl := Option.some.inj hother
  exact ⟨hname.comma, hname.equals, hname.trimmed⟩

theorem isCleanValue_of_isWord {s : String} (h : isWord s = true) : IsCleanValue s :=
  ⟨Text.comma_not_mem_of_isWord h, Text.trim_of_isWord h⟩

/-- A list whose entries are clean and have a text. -/
def IsClean (entries : List Entry) : Prop :=
  ∀ e ∈ entries, e.IsClean ∧ e.text.toList ≠ []

/-- **A clean list reads back.** -/
theorem parse_text_of_isClean {entries : List Entry} (h : IsClean entries) :
    parse (mk entries).text = mk entries := by
  rw [parse_text fun e he ↦ (h e he).1, List.filter_eq_self.2 fun e he ↦ by simpa using (h e he).2]

@[simp] theorem isClean_nil : IsClean [] := by
  simp [IsClean]

theorem isClean_append {first second : List Entry} :
    IsClean (first ++ second) ↔ IsClean first ∧ IsClean second := by
  simp only [IsClean, List.mem_append, or_imp, forall_and]
  exact and_and_and_comm

theorem isClean_positional {value : String} (hvalue : IsCleanValue value)
    (hequals : '=' ∉ value.toList) (hne : value ≠ "") : IsClean (positional value) := by
  intro e he
  obtain rfl := List.mem_singleton.1 he
  exact ⟨⟨hvalue.comma, hvalue.trimmed, fun _ ↦ hequals, nofun⟩, by simpa [Entry.text] using hne⟩

theorem isClean_pair_of_isClean {name value : String} (h : (Entry.mk (some name) value).IsClean) :
    IsClean (pair name value) := by
  intro e he
  obtain rfl := List.mem_singleton.1 he
  exact ⟨h, by simp [Entry.text]⟩

theorem isCleanName_of_isWord {name : String} (h : isWord name = true) : IsCleanName name :=
  ⟨Text.comma_not_mem_of_isWord h, Text.equals_not_mem_of_isWord h, Text.trim_of_isWord h⟩

theorem isClean_pair {name value : String} (hname : isWord name = true)
    (hvalue : IsCleanValue value) : IsClean (pair name value) :=
  isClean_pair_of_isClean ((isCleanName_of_isWord hname).isClean_entry hvalue)

theorem isClean_optional {name : String} {value : Option String} (hname : isWord name = true)
    (hvalue : ∀ s, value = some s → IsCleanValue s) : IsClean (optional name value) := by
  cases value with
  | none => exact isClean_nil
  | some s => exact isClean_pair hname (hvalue s rfl)

/-- A setting that is written as a word, or not at all. -/
theorem isClean_optional_map {α : Type} {name : String} {render : α → String}
    (hname : isWord name = true) (o : Option α) (h : ∀ a, isWord (render a) = true) :
    IsClean (optional name (o.map render)) :=
  isClean_optional hname fun s hs ↦ by
    obtain ⟨a, -, rfl⟩ := Option.map_eq_some_iff.1 hs
    exact isCleanValue_of_isWord (h a)

theorem isClean_flag {name : String} (hname : isWord name = true) (set : Bool) :
    IsClean (flag name set) := by
  cases set with
  | false => exact isClean_nil
  | true => exact isClean_pair hname (isCleanValue_of_isWord (by decide))

theorem isClean_unsetFlag {name : String} (hname : isWord name = true) (set : Bool) :
    IsClean (unsetFlag name set) := by
  cases set with
  | false => exact isClean_pair hname (isCleanValue_of_isWord (by decide))
  | true => exact isClean_nil

/-! ## Look-ups -/

/-- **The first option with a name is found.** -/
theorem get?_eq_some_iff {options : OptionList} {name value : String} :
    options.get? name = some value ↔
      ∃ before after, options.entries = before ++ ⟨some name, value⟩ :: after ∧
        ∀ e ∈ before, e.name ≠ some name := by
  rw [get?, Option.map_eq_some_iff]
  simp only [List.find?_eq_some_iff_append, decide_eq_true_eq, Bool.not_eq_true',
    decide_eq_false_iff_not]
  constructor
  · rintro ⟨⟨_, _⟩, ⟨rfl, before, after, hentries, hbefore⟩, rfl⟩
    exact ⟨before, after, hentries, hbefore⟩
  · rintro ⟨before, after, hentries, hbefore⟩
    exact ⟨⟨some name, value⟩, ⟨rfl, before, after, hentries, hbefore⟩, rfl⟩

/-! ### Look-ups in lists that are made of parts -/

section lookup

variable {entries : List Entry} {name name' value : String}

theorem get?_append (first second : List Entry) (name : String) :
    (mk (first ++ second)).get? name = ((mk first).get? name).or ((mk second).get? name) := by
  rw [get?, get?, get?, List.find?_append]
  cases first.find? fun e ↦ e.name = some name <;> simp

theorem get?_nil (name : String) : (mk []).get? name = none := rfl

theorem get?_positional (value name : String) : (mk (positional value)).get? name = none := rfl

theorem get?_pair (name value name' : String) :
    (mk (pair name value)).get? name' = if name = name' then some value else none := by
  by_cases h : name = name' <;> simp [get?, pair, h]

theorem get?_optional (name : String) (value : Option String) (name' : String) :
    (mk (optional name value)).get? name' = if name = name' then value else none := by
  cases value with
  | none => simp [optional, get?_nil]
  | some value => rw [optional, get?_pair]

/-- What is written for a flag that is written when it is set. -/
def whenSet (set : Bool) : Option Bool :=
  if set then some true else none

/-- What is written for a flag that is written when it is not set. -/
def unlessSet (set : Bool) : Option Bool :=
  if set then none else some false

@[simp] theorem getD_whenSet (set : Bool) : (whenSet set).getD false = set := by
  cases set <;> rfl

@[simp] theorem getD_unlessSet (set : Bool) : (unlessSet set).getD true = set := by
  cases set <;> rfl

theorem get?_flag (name : String) (set : Bool) (name' : String) :
    (mk (flag name set)).get? name' =
      if name = name' then (whenSet set).map flagText else none := by
  cases set with
  | false => simp [flag, get?_nil, whenSet]
  | true => simp [flag, get?_pair, whenSet, flagText]

theorem get?_unsetFlag (name : String) (set : Bool) (name' : String) :
    (mk (unsetFlag name set)).get? name' =
      if name = name' then (unlessSet set).map flagText else none := by
  cases set with
  | false => simp [unsetFlag, get?_pair, unlessSet, flagText]
  | true => simp [unsetFlag, get?_nil, unlessSet]

theorem leading?_positional (value : String) (rest : List Entry) :
    (mk (positional value ++ rest)).leading? = some value := rfl

end lookup

/-! ## Reading options -/

section reading

variable {α : Type} {options : OptionList} {name : String} {o : Option α}

/-- An option that was written is read, if its reader takes what is written. -/
theorem read?_of_get? {render : α → String} {read : String → Option α}
    (h : options.get? name = o.map render) (hread : ∀ a, o = some a → read (render a) = some a) :
    options.read? name read = .ok o := by
  cases o with
  | none => exact read?_of_get?_eq_none read h
  | some a =>
    rw [read?, h, Option.map_some]
    dsimp only
    rw [hread a rfl]

theorem decoded?_of_get? {render : α → String} {decode : String → Except WireError α}
    (h : options.get? name = o.map render)
    (hdecode : ∀ a, o = some a → decode (render a) = .ok a) :
    options.decoded? name decode = .ok o := by
  cases o with
  | none => rw [decoded?, h, Option.map_none]
  | some a =>
    rw [decoded?, h, Option.map_some]
    dsimp only
    rw [hdecode a rfl]
    rfl

theorem word?_of_get? [Word α] (h : options.get? name = o.map Word.text) :
    options.word? name = .ok o :=
  read?_of_get? h fun a _ ↦ by rw [Word.toList_text, Text.word?_digits]

theorem token?_of_get? [Token α] (h : options.get? name = o.map Token.name) :
    options.token? name = .ok o :=
  read?_of_get? h fun a _ ↦ Token.ofName?_name a

theorem checked?_of_get? {g : Grammar} {o : Option (Checked g)}
    (h : options.get? name = o.map Checked.text) : options.checked? name = .ok o :=
  read?_of_get? h fun a _ ↦ by rw [Checked.parse_text]; rfl

theorem flag?_of_get? {o : Option Bool} (h : options.get? name = o.map flagText) :
    options.flag? name = .ok o :=
  read?_of_get? h fun b _ ↦ parseFlag?_flagText b

end reading

/-! ## What stands first -/

/-- **What stands first in a written list is its first piece.** -/
theorem head?_splitOn_text {value : String} (rest : List Entry) (h : ',' ∉ value.toList) :
    (splitOn ',' (mk (positional value ++ rest)).text.toList).head? = some value.toList := by
  rw [toList_text]
  cases rest with
  | nil =>
    simp [positional, Entry.text, splitOn_eq_singleton h]
  | cons e rest =>
    simp [positional, Entry.text, List.intercalate_cons_cons, splitOn_append_cons _ h]

/-! ## What was read -/

/-- An entry that was read was a piece between two commas, with something in it besides blanks. -/
theorem exists_piece_of_mem_parse {s : String} {e : Entry} (h : e ∈ (parse s).entries) :
    ∃ piece, ',' ∉ piece ∧ trim piece = piece ∧ piece ≠ [] ∧ Entry.parse piece = e := by
  obtain ⟨piece, hpiece, he⟩ := List.mem_filterMap.1 h
  obtain ⟨raw, hraw, rfl⟩ := List.mem_map.1 hpiece
  split at he
  · cases he
  · next hne =>
    refine ⟨trim raw, fun hc ↦ Text.not_mem_of_mem_splitOn hraw (Text.mem_of_mem_trim hc), by simp,
      fun hnil ↦ hne (by rw [hnil]; rfl), Option.some.inj he⟩

/-- **A value that was read has no comma and no blanks at its ends**, and it has no `=` if it has no
name. -/
theorem isCleanValue_of_mem_parse {s : String} {e : Entry} (h : e ∈ (parse s).entries) :
    IsCleanValue e.value ∧ (e.name = none → '=' ∉ e.value.toList ∧ e.value ≠ "") := by
  obtain ⟨piece, hcomma, htrim, hne, rfl⟩ := exists_piece_of_mem_parse h
  unfold Entry.parse
  split
  · next name value hsplit =>
    have heq := (splitOnce_eq_some_iff.1 hsplit).1
    refine ⟨⟨?_, by simp⟩, nofun⟩
    rw [String.toList_ofList]
    intro hc
    have hvalue := Text.mem_of_mem_trim hc
    exact hcomma (heq ▸ List.mem_append_right _ (List.mem_cons_of_mem _ hvalue))
  · next hsplit =>
    refine ⟨⟨by simpa using hcomma, by simpa using htrim⟩, fun _ ↦ ⟨?_, fun hempty ↦ hne ?_⟩⟩
    · simpa using splitOnce_eq_none_iff.1 hsplit
    · simpa using congrArg String.toList hempty

/-- **A name that was read has neither comma nor `=`**, and no blanks at its ends. -/
theorem isCleanName_of_mem_parse {s name : String} {e : Entry} (h : e ∈ (parse s).entries)
    (hname : e.name = some name) : IsCleanName name := by
  obtain ⟨piece, hcomma, -, -, rfl⟩ := exists_piece_of_mem_parse h
  unfold Entry.parse at hname
  split at hname
  · next before after hsplit =>
    obtain ⟨heq, hequals⟩ := splitOnce_eq_some_iff.1 hsplit
    obtain rfl := Option.some.inj hname
    refine ⟨?_, ?_, by simp⟩
    · rw [String.toList_ofList]
      exact fun hc ↦ hcomma (heq ▸ List.mem_append_left _ (Text.mem_of_mem_trim hc))
    · rw [String.toList_ofList]
      exact fun hc ↦ hequals (Text.mem_of_mem_trim hc)
  · cases hname

theorem exists_of_leading? {options : OptionList} {value : String}
    (h : options.leading? = some value) : ⟨none, value⟩ ∈ options.entries := by
  unfold leading? at h
  split at h
  · next v rest heq =>
    obtain rfl := Option.some.inj h
    exact heq ▸ List.mem_cons_self
  · cases h

theorem exists_of_get? {options : OptionList} {name value : String}
    (h : options.get? name = some value) : ⟨some name, value⟩ ∈ options.entries := by
  obtain ⟨e, he, rfl⟩ := Option.map_eq_some_iff.1 h
  have hname : e.name = some name := by simpa using List.find?_some he
  exact hname ▸ List.mem_of_find?_eq_some he

theorem comma_not_mem_of_leading? {s value : String} (h : (parse s).leading? = some value) :
    ',' ∉ value.toList :=
  (isCleanValue_of_mem_parse (exists_of_leading? h)).1.comma

theorem comma_not_mem_of_get? {s name value : String} (h : (parse s).get? name = some value) :
    ',' ∉ value.toList :=
  (isCleanValue_of_mem_parse (exists_of_get? h)).1.comma

end OptionList

end GuestConfig
