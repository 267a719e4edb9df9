import GuestConfig.Proofs.Outcome
import GuestConfig.Proofs.Sorted
import GuestConfig.Value.Reader

/-!
# Tables of a document read back

A document is written as tables: a record as a table with its field names as keys, a map by slot as
a table with numbers as keys, a choice as a tag beside its content.  The writer lists the entries
in an order of its own, the table sorts them by key, and the reader asks for one key after another.
What is found under a key is what was listed under it because no writer lists a key twice: field
names are distinct, and so are the numbers of slots.

The readers of fields are looked at through `Value.nullable?`, which is the part that does not
depend on the key, and a record is read back once each field is: this is
`Value.bind_fields?_object`, and the proofs for single records are `simp` after it.

## What is here

* `Value.bind_fields?_object` — **a record is read from the entries that it was written as.**
* `Value.nullable?_ofOption` — a value that may be absent reads back.
* `Value.list?_ofList`, `Value.slotMap?_ofSlotMap` — **lists and maps by slot read back.**
* `Value.tagged?_ofTagged`, `Value.tagged?_ofTag` — choices.
-/

set_option autoImplicit false

namespace GuestConfig

/-! ## Single values -/

namespace Value

@[simp] theorem isNull_bool (b : Bool) : (bool b).isNull = false := rfl

@[simp] theorem isNull_text (s : String) : (text s).isNull = false := rfl

@[simp] theorem isNull_ofWord {α : Type} [Word α] (a : α) : (ofWord a).isNull = false := rfl

@[simp] theorem isNull_ofToken {α : Type} [Token α] (a : α) : (ofToken a).isNull = false := rfl

@[simp] theorem isNull_ofChecked {g : Grammar} (a : Checked g) : (ofChecked a).isNull = false := rfl

@[simp] theorem isNull_ofList {α : Type} (write : α → Value) (items : List α) :
    (ofList write items).isNull = false := rfl

@[simp] theorem isNull_ofSlotMap {kind : SlotKind} {α : Type} (write : α → Value)
    (m : SlotMap kind α) : (ofSlotMap write m).isNull = false := rfl

@[simp] theorem checked?_ofChecked {g : Grammar} (a : Checked g) :
    (ofChecked a).checked? = some a := by
  simp [checked?, ofChecked, Except.toOption]

/-- Reads a value that may be null. -/
def nullable? {α : Type} (read : Value → Option α) (v : Value) : Option (Option α) :=
  if v.isNull then some none else (read v).map some

/-- **A value that may be absent reads back** if nothing that is there is written as null. -/
theorem nullable?_ofOption {α : Type} {read : Value → Option α} {write : α → Value} {a : Option α}
    (h : ∀ x ∈ a, read (write x) = some x ∧ (write x).isNull = false) :
    nullable? read (ofOption write a) = some a := by
  cases a with
  | none => rfl
  | some x =>
    obtain ⟨hread, hnull⟩ := h x rfl
    simp [ofOption, nullable?, hread, hnull]

/-! ## Lists and sets -/

/-- **A list reads back** if its items do. -/
theorem list?_ofList {α : Type} {read : Value → Option α} {write : α → Value} {items : List α}
    (h : ∀ a ∈ items, read (write a) = some a) : (ofList write items).list? read = some items := by
  rw [ofList, list?, mapM_eq_some_iff, List.map_map]
  exact List.map_congr_left h

@[simp] theorem list?_ofList_text (items : List String) :
    (ofList text items).list? text? = some items :=
  list?_ofList fun a _ ↦ text?_text a

theorem list?_ofList_sorted {α : Type} [LT α] [DecidableLT α] [DecidableEq α] [StrictOrder α]
    {read : Value → Option α} {write : α → Value} (h : ∀ a, read (write a) = some a)
    (s : SortedSet α) : ((ofList write s.toList).list? read).map .ofList = some s := by
  rw [list?_ofList fun a _ ↦ h a, Option.map_some, SortedSet.ofList_toList]

end Value

/-! ## Records -/

namespace Fields

variable {α : Type} {fields : Fields}

@[simp] theorem optional_eq {key : String} {read : Value → Option α} :
    fields.optional key read = (fields.get? key).elim (some none) (Value.nullable? read) := by
  rw [optional]
  cases fields.get? key <;> rfl

@[simp] theorem withDefault_eq {key : String} {default : α} {read : Value → Option α} :
    fields.withDefault key default read = (fields.get? key).elim (some default) read := by
  rw [withDefault]
  cases fields.get? key <;> rfl

end Fields

namespace Value

/-- A table of entries with distinct keys is a record, and each entry is one of its fields. -/
theorem exists_fields?_object {known : List String} {entries : List (String × Value)}
    (hknown : ∀ e ∈ entries, e.1 ∈ known) (hdistinct : (entries.map (·.1)).Nodup) :
    ∃ fields, (object entries).fields? known = some fields ∧
      ∀ key, fields.get? key = entries.lookup key := by
  have hall : ((SortedMap.ofList entries).toList.all fun e ↦ e.1 ∈ known) = true :=
    List.all_eq_true.2 fun e he ↦ decide_eq_true (hknown e (SortedMap.mem_of_mem_ofList he))
  exact ⟨_, if_pos hall, SortedMap.get?_ofList_of_nodup hdistinct⟩

/-- **A record is read from the entries that it was written as.** -/
theorem bind_fields?_object {β : Type} {known : List String} {entries : List (String × Value)}
    {read : Fields → Option β} {b : β} (hknown : entries.map (·.1) = known)
    (hdistinct : known.Nodup)
    (h : ∀ fields : Fields, (∀ key, fields.get? key = entries.lookup key) →
      read fields = some b) :
    ((object entries).fields? known).bind read = some b := by
  subst hknown
  obtain ⟨fields, hfields, hget⟩ :=
    exists_fields?_object (fun e he ↦ List.mem_map.2 ⟨e, he, rfl⟩) hdistinct
  rw [hfields, Option.bind_some]
  exact h fields hget

end Value

/-! ## Maps by slot -/

@[simp] theorem Slot.parse_text {kind : SlotKind} (slot : Slot kind) :
    Slot.parse slot.text = .ok slot :=
  (parse_digits_eq_ok_iff (Text.digits_ne_nil _) (Text.isDigits_digits _)).2
    (Text.digitsValue_digits _)

theorem Slot.text_inj {kind : SlotKind} {a b : Slot kind} (h : a.text = b.text) : a = b :=
  Except.ok.inj ((parse_text a).symm.trans ((congrArg parse h).trans (parse_text b)))

namespace Value

variable {kind : SlotKind} {α : Type} {read : Value → Option α} {write : α → Value}

theorem mem_ofSlotMap_iff {m : SlotMap kind α} {e : String × Value} :
    e ∈ (SortedMap.ofList (m.toList.map fun (slot, a) ↦ (slot.text, write a))).toList ↔
      ∃ slot a, m.get? slot = some a ∧ e = (slot.text, write a) := by
  obtain ⟨key, v⟩ := e
  rw [SortedMap.mem_toList_iff, SortedMap.get?_ofList_eq_some_iff, List.mem_map]
  · constructor
    · rintro ⟨⟨slot, a⟩, hmem, h⟩
      exact ⟨slot, a, m.mem_toList_iff.1 hmem, h.symm⟩
    · rintro ⟨slot, a, hget, h⟩
      exact ⟨(slot, a), m.mem_toList_iff.2 hget, h.symm⟩
  · -- two slots with one number are one slot
    intro b c hb hc
    obtain ⟨⟨slot, a⟩, hmem, h⟩ := List.mem_map.1 hb
    obtain ⟨⟨slot', a'⟩, hmem', h'⟩ := List.mem_map.1 hc
    obtain ⟨hkey, rfl⟩ := Prod.mk.inj h
    obtain ⟨hkey', rfl⟩ := Prod.mk.inj h'
    obtain rfl := Slot.text_inj (hkey.trans hkey'.symm)
    rw [Option.some.inj ((m.mem_toList_iff.1 hmem).symm.trans (m.mem_toList_iff.1 hmem'))]

/-- **A map by slot reads back** if what is in the slots does. -/
theorem slotMap?_ofSlotMap {m : SlotMap kind α}
    (h : ∀ slot a, m.get? slot = some a → read (write a) = some a) :
    (ofSlotMap write m).slotMap? read = some m := by
  let entries := SortedMap.ofList (m.toList.map fun (slot, a) ↦ (slot.text, write a))
  let readEntry (e : String × Value) : Option (Slot kind × α) := do
    let slot ← (Slot.parse e.1).toOption
    let a ← read e.2
    some (slot, a)
  have hentry {slot : Slot kind} {a : α} (hget : m.get? slot = some a) :
      readEntry (slot.text, write a) = some (slot, a) := by
    simp [readEntry, h slot a hget, Except.toOption]
  have hread : entries.toList.mapM readEntry = some (entries.toList.filterMap readEntry) := by
    refine mapM_eq_some_filterMap fun e he ↦ ?_
    obtain ⟨slot, a, hget, rfl⟩ := mem_ofSlotMap_iff.1 he
    rw [hentry hget]
    rfl
  have hmem {slot : Slot kind} {a : α} :
      (slot, a) ∈ entries.toList.filterMap readEntry ↔ m.get? slot = some a := by
    rw [List.mem_filterMap]
    constructor
    · rintro ⟨e, he, heq⟩
      obtain ⟨slot', a', hget, rfl⟩ := mem_ofSlotMap_iff.1 he
      obtain ⟨rfl, rfl⟩ := Prod.mk.inj (Option.some.inj ((hentry hget).symm.trans heq))
      exact hget
    · intro hget
      exact ⟨_, mem_ofSlotMap_iff.2 ⟨slot, a, hget, rfl⟩, hentry hget⟩
  have hsame : SortedMap.ofList (entries.toList.filterMap readEntry) = m :=
    SortedMap.ext fun slot ↦ Option.ext fun a ↦ by
      rw [SortedMap.get?_ofList_eq_some_iff, hmem]
      intro b c hb hc
      exact Option.some.inj ((hmem.1 hb).symm.trans (hmem.1 hc))
  have hmap : (ofSlotMap write m).slotMap? read =
      (entries.toList.mapM readEntry).map SortedMap.ofList := rfl
  rw [hmap, hread, Option.map_some, hsame]

/-! ## Choices -/

/-- **A choice with content reads back as its tag and its content.** -/
theorem tagged?_ofTagged {tag content : String} (h : tag ≠ content) (d : Dialect) (name : String)
    (v : Value) : (ofTagged tag name content v).tagged? d tag content = some (name, some v) := by
  have hknown : ∀ e ∈ [(tag, text name), (content, v)], e.1 ∈ [tag, content] := by simp
  have hdistinct : ([(tag, text name), (content, v)].map (·.1)).Nodup := by simpa using h
  obtain ⟨fields, hfields, hget⟩ := exists_fields?_object hknown hdistinct
  have hne : (content == tag) = false := beq_false_of_ne h.symm
  rw [tagged?, ofTagged, hfields]
  simp [Fields.required, hget, List.lookup_cons, hne, tokenName?]

/-- **A choice without content reads back as its tag.** -/
theorem tagged?_ofTag {tag content : String} (h : tag ≠ content) (d : Dialect) (name : String) :
    (ofTag tag name).tagged? d tag content = some (name, none) := by
  have hknown : ∀ e ∈ [(tag, text name)], e.1 ∈ [tag, content] := by simp
  have hdistinct : ([(tag, text name)].map (·.1)).Nodup := by simp
  obtain ⟨fields, hfields, hget⟩ := exists_fields?_object hknown hdistinct
  have hne : (content == tag) = false := beq_false_of_ne h.symm
  rw [tagged?, ofTag, hfields]
  simp [Fields.required, hget, List.lookup_cons, hne, tokenName?]

end Value

end GuestConfig
