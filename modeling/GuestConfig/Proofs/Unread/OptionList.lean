import GuestConfig.Proofs.OptionList

/-!
# Options that nobody asks for

A later version of the product may say more in a field than this library knows.  Nothing is lost by
that: readers ask for the options that they know by name, of several options with one name they take
the first, and only the very first entry counts without a name.  So two lists of options cannot be
told apart by readers that ask for certain names, if they have the same first entry and give the
same answers for these names; and adding an option with another name, anywhere behind the first
entry, leaves both as they are.

## What is here

* `OptionList.AgreesOn` — readers that ask for certain names cannot tell two lists apart, with one
  lemma for each kind of reader.
* `OptionList.parse_append` — what is written behind a comma adds its entries.
* `OptionList.AddsUnread` — a text with one option more, which has none of certain names.
* `OptionList.AddsUnread.agreesOn` — **such an option goes unnoticed.**
-/

set_option autoImplicit false

namespace GuestConfig

open Text (isBlank splitOn splitOn_append splitOn_eq_singleton splitOnce splitOnce_append trim
  trimEnd trimStart trimStart_trimStart trim_append_cons_eq trimmed)

namespace OptionList

/-! ## Lists that readers cannot tell apart -/

/-- Readers that ask for these names cannot tell the lists apart. -/
structure AgreesOn (names : List String) (a b : OptionList) : Prop where
  /-- The same entry stands first. -/
  head?_eq : a.entries.head? = b.entries.head?
  /-- The names have the same values. -/
  get?_eq : ∀ name ∈ names, a.get? name = b.get? name

namespace AgreesOn

variable {names : List String} {name : String} {a b : OptionList}

theorem get? (h : AgreesOn names a b) (hname : name ∈ names) : a.get? name = b.get? name :=
  h.get?_eq name hname

theorem leading? (h : AgreesOn names a b) : a.leading? = b.leading? := by
  have hleading (options : OptionList) : options.leading? =
      options.entries.head?.bind fun e ↦ if e.name = none then some e.value else none := by
    obtain ⟨entries⟩ := options
    rcases entries with - | ⟨⟨_ | _, _⟩, _⟩ <;> rfl
  rw [hleading, hleading, h.head?_eq]

theorem read? {α : Type} (h : AgreesOn names a b) (hname : name ∈ names)
    (read : String → Option α) : a.read? name read = b.read? name read := by
  rw [OptionList.read?, OptionList.read?, h.get? hname]

theorem decoded? {α : Type} (h : AgreesOn names a b) (hname : name ∈ names)
    (decode : String → Except WireError α) : a.decoded? name decode = b.decoded? name decode := by
  rw [OptionList.decoded?, OptionList.decoded?, h.get? hname]

theorem word? {α : Type} [Word α] (h : AgreesOn names a b) (hname : name ∈ names) :
    (a.word? name : Except WireError (Option α)) = b.word? name :=
  h.read? hname _

theorem token? {α : Type} [Token α] (h : AgreesOn names a b) (hname : name ∈ names) :
    (a.token? name : Except WireError (Option α)) = b.token? name :=
  h.read? hname _

theorem checked? {g : Grammar} (h : AgreesOn names a b) (hname : name ∈ names) :
    (a.checked? name : Except WireError (Option (Checked g))) = b.checked? name :=
  h.read? hname _

theorem flag? (h : AgreesOn names a b) (hname : name ∈ names) : a.flag? name = b.flag? name :=
  h.read? hname _

end AgreesOn

/-- An entry without any of the names goes unnoticed behind the first one. -/
theorem agreesOn_insert {names : List String} {front : List Entry} {e : Entry}
    (back : List Entry) (hfront : front ≠ []) (he : ∀ name ∈ names, e.name ≠ some name) :
    AgreesOn names (mk (front ++ e :: back)) (mk (front ++ back)) where
  head?_eq := by
    obtain ⟨first, rest, rfl⟩ := List.exists_cons_of_ne_nil hfront
    rfl
  get?_eq name hname := by
    have hskip : (mk (e :: back)).get? name = (mk back).get? name := by
      rw [OptionList.get?, OptionList.get?, List.find?_cons_of_neg (by simpa using he name hname)]
    rw [get?_append, get?_append, hskip]

/-! ## Texts with more entries -/

/-- **What is written behind a comma adds its entries.** -/
theorem parse_append (front back : String) :
    (parse (front ++ "," ++ back)).entries = (parse front).entries ++ (parse back).entries := by
  have htext : (front ++ "," ++ back).toList = front.toList ++ ',' :: back.toList := by simp
  rw [parse, htext, splitOn_append, List.map_append, List.filterMap_append]
  rfl

/-- An option is one entry, whose name has no blanks at its ends. -/
theorem parse_option {name value : String} (hname : ',' ∉ name.toList ∧ '=' ∉ name.toList)
    (hvalue : ',' ∉ value.toList) :
    ∃ e : Entry, (parse (name ++ "=" ++ value)).entries = [e] ∧ e.name = some (trimmed name) := by
  have htext : (name ++ "=" ++ value).toList = name.toList ++ '=' :: value.toList := by simp
  have hcomma : ',' ∉ name.toList ++ '=' :: value.toList := by
    simp [hname.1, hvalue]
  have hequals : '=' ∉ trimStart name.toList :=
    fun h ↦ hname.2 ((Text.isSuffix_trimStart _).subset h)
  have htrim : trim (name.toList ++ '=' :: value.toList) =
      trimStart name.toList ++ '=' :: trimEnd value.toList :=
    trim_append_cons_eq _ _ (by decide)
  refine ⟨Entry.parse (trim (name.toList ++ '=' :: value.toList)), ?_, ?_⟩
  · rw [parse, htext, splitOn_eq_singleton hcomma]
    simp [htrim]
  · rw [htrim, Entry.parse, splitOnce_append _ hequals]
    dsimp only
    rw [trimmed, trim, trimStart_trimStart]
    rfl

/-! ## Options that are not read -/

/-- An option that has none of certain names. -/
structure IsUnread (names : List String) (name value : String) : Prop where
  /-- It is one entry, and the name ends at the `=`. -/
  name_clean : ',' ∉ name.toList ∧ '=' ∉ name.toList
  /-- It is one entry. -/
  value_clean : ',' ∉ value.toList
  /-- Its name is none of them. -/
  not_mem : trimmed name ∉ names

/-- A text with an option more that has none of certain names, anywhere behind the first entry. -/
inductive AddsUnread (names : List String) : String → String → Prop
  /-- The option stands last. -/
  | last {front name value : String} (hfront : (parse front).entries ≠ [])
      (h : IsUnread names name value) :
      AddsUnread names front (front ++ "," ++ (name ++ "=" ++ value))
  /-- The option stands between two entries. -/
  | between {front back name value : String} (hfront : (parse front).entries ≠ [])
      (h : IsUnread names name value) :
      AddsUnread names (front ++ "," ++ back)
        (front ++ "," ++ (name ++ "=" ++ value) ++ "," ++ back)

/-- **An option that is not asked for goes unnoticed.** -/
theorem AddsUnread.agreesOn {names : List String} {s s' : String} (h : AddsUnread names s s') :
    AgreesOn names (parse s') (parse s) := by
  have hentry {name value : String} (h : IsUnread names name value) :
      ∃ e : Entry, (parse (name ++ "=" ++ value)).entries = [e] ∧
        ∀ name ∈ names, e.name ≠ some name := by
    obtain ⟨e, hparse, he⟩ := parse_option h.name_clean h.value_clean
    refine ⟨e, hparse, fun other hother heq ↦ h.not_mem ?_⟩
    rwa [Option.some.inj (he.symm.trans heq)]
  cases h with
  | @last _ name value hfront h =>
    obtain ⟨e, hparse, he⟩ := hentry h
    have hs' : parse (s ++ "," ++ (name ++ "=" ++ value)) = mk ((parse s).entries ++ e :: []) := by
      rw [← hparse, ← parse_append]
    have hagrees := agreesOn_insert [] hfront he
    rw [List.append_nil] at hagrees
    rw [hs']
    exact hagrees
  | @between front back name value hfront h =>
    obtain ⟨e, hparse, he⟩ := hentry h
    have hs' : parse (front ++ "," ++ (name ++ "=" ++ value) ++ "," ++ back) =
        mk ((parse front).entries ++ e :: (parse back).entries) := by
      rw [← List.singleton_append, ← hparse, ← List.append_assoc, ← parse_append, ← parse_append]
    have hs : parse (front ++ "," ++ back) =
        mk ((parse front).entries ++ (parse back).entries) := by
      rw [← parse_append]
    rw [hs', hs]
    exact agreesOn_insert _ hfront he

end OptionList

end GuestConfig
