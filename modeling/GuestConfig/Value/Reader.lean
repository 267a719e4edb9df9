import GuestConfig.Checked
import GuestConfig.Token
import GuestConfig.Value.Basic

/-!
# Reading typed data from values

A typed configuration is written as a tree of values, and reading it back is strict: whole numbers
must be whole and in range, unknown keys are refused, and only what may be absent may be null.
Why a value does not fit is never told, so a reader simply has no result then.

## What is here

* `Value.flag?`, `Value.word?`, `Value.text?`, … — readers of single values.
* `Value.fields?` and `Fields` — a table that has only known keys, and the three ways of reading a
  field: `optional` if it may be absent or null, `withDefault` if it may be absent, `required`.
* `Dialect` and `Value.token?` — a token is its name.  It may also be a table with that name as
  its only key and *nothing* as its value, and what counts as nothing depends on where the table
  was written.
* `Value.tagged?` — a choice between shapes: a tag that names the shape, beside its content.
-/

set_option autoImplicit false

namespace GuestConfig

namespace Value

/-! ## Single values -/

/-- Whether a value is the absent one. -/
def isNull : Value → Bool
  | null => true
  | _ => false

/-- A truth value. -/
def flag? : Value → Option Bool
  | bool b => some b
  | _ => none

/-- A whole number that is not negative. -/
def nat? : Value → Option Nat
  | int (.ofNat n) => some n
  | _ => none

/-- A whole number of fixed width. -/
def word? {α : Type} [Word α] (v : Value) : Option α :=
  v.nat?.bind Word.ofNat?

/-- A number of either kind, as a floating point number. -/
def float? : Value → Option Float
  | int n => some (Float.ofInt n)
  | float x => some x
  | _ => none

/-- A text. -/
def text? : Value → Option String
  | text s => some s
  | _ => none

/-- A text with a grammar. -/
def checked? {g : Grammar} (v : Value) : Option (Checked g) :=
  v.text?.bind fun s ↦ (Checked.parse s).toOption

/-- A text with a grammar as a value. -/
def ofChecked {g : Grammar} (a : Checked g) : Value :=
  text a.text

/-- A slot by its number or by a text, and why it is none; nothing else can stand for a slot. -/
def slot? {kind : SlotKind} : Value → Option (Except SlotError (Slot kind))
  | int n => some (Slot.ofInt n)
  | text s => some (Slot.parse s)
  | _ => none

/-- A list of values that can all be read. -/
def list? {α : Type} (read : Value → Option α) : Value → Option (List α)
  | list items => items.mapM read
  | _ => none

/-- A table by key. -/
def map? {α : Type} (read : Value → Option α) : Value → Option (SortedMap String α)
  | table entries =>
    (entries.mapM fun (e : String × Value) ↦ (read e.2).map fun a ↦ (e.1, a)).map SortedMap.ofList
  | _ => none

/-- A table by slot; of two spellings of one slot the later one counts. -/
def slotMap? {kind : SlotKind} {α : Type} (read : Value → Option α) :
    Value → Option (SlotMap kind α)
  | table entries =>
    (entries.mapM fun (e : String × Value) ↦ do
      let slot ← (Slot.parse e.1).toOption
      let a ← read e.2
      some (slot, a)).map SortedMap.ofList
  | _ => none

@[simp] theorem flag?_bool (b : Bool) : (bool b).flag? = some b := rfl

@[simp] theorem text?_text (s : String) : (text s).text? = some s := rfl

/-- A number of fixed width reads back. -/
@[simp] theorem word?_ofWord {α : Type} [Word α] (a : α) : (ofWord a).word? = some a :=
  Word.ofNat?_toNat a

end Value

/-! ## Tables with known keys -/

/-- The entries of a table whose keys are all known. -/
structure Fields where
  /-- The entries. -/
  entries : List (String × Value)

/-- The fields of a table, provided that every key is among the given ones. -/
def Value.fields? (known : List String) : Value → Option Fields
  | table entries => if entries.all fun e ↦ e.1 ∈ known then some ⟨entries⟩ else none
  | _ => none

namespace Fields

variable {α : Type}

/-- The value of a field. -/
def get? (fields : Fields) (key : String) : Option Value :=
  SortedMap.Entries.get? key fields.entries

/-- A field that may be absent or null. -/
def optional (fields : Fields) (key : String) (read : Value → Option α) : Option (Option α) :=
  match fields.get? key with
  | none => some none
  | some v => if v.isNull then some none else (read v).map some

/-- A field that may be absent. -/
def withDefault (fields : Fields) (key : String) (default : α) (read : Value → Option α) :
    Option α :=
  match fields.get? key with
  | none => some default
  | some v => read v

/-- A field that must be there. -/
def required (fields : Fields) (key : String) (read : Value → Option α) : Option α :=
  (fields.get? key).bind read

end Fields

/-! ## Tokens and tags -/

/-- Where values come from, as far as that decides what counts as nothing. -/
structure Dialect where
  /-- Whether a value counts as nothing. -/
  isNothing : Value → Bool

namespace Dialect

/-- A JSON document: nothing is null. -/
def json : Dialect :=
  ⟨Value.isNull⟩

/-- The content beside a tag in a JSON document: nothing is null or an empty table. -/
def content : Dialect :=
  ⟨fun v ↦ match v with
    | .null => true
    | .table entries => entries.isEmpty
    | _ => false⟩

/-- A TOML document, which has no null: nothing is an empty table or an empty list. -/
def toml : Dialect :=
  ⟨fun v ↦ match v with
    | .table entries => entries.isEmpty
    | .list items => items.isEmpty
    | _ => false⟩

end Dialect

namespace Value

/-- The name of a token, by itself or as the only key of a table with nothing in it. -/
def tokenName? (d : Dialect) : Value → Option String
  | text s => some s
  | table [(s, v)] => if d.isNothing v then some s else none
  | _ => none

/-- A token. -/
def token? {α : Type} [Token α] (d : Dialect) (v : Value) : Option α :=
  (v.tokenName? d).bind Token.ofName?

/-- A token as a value. -/
def ofToken {α : Type} [Token α] (a : α) : Value :=
  text (Token.name a)

@[simp] theorem token?_ofToken {α : Type} [Token α] (d : Dialect) (a : α) :
    (ofToken a).token? d = some a :=
  Token.ofName?_name a

/-- The tag of a choice and its content, if it has any. -/
def tagged? (d : Dialect) (tag content : String) (v : Value) :
    Option (String × Option Value) := do
  let fields ← v.fields? [tag, content]
  let name ← fields.required tag (tokenName? d)
  some (name, fields.get? content)

/-- A choice without content. -/
def ofTag (tag name : String) : Value :=
  object [(tag, name)]

/-- A choice with content. -/
def ofTagged (tag name content : String) (v : Value) : Value :=
  object [(tag, name), (content, v)]

/-- Whether the content of a choice that has none is left out or null. -/
def isAbsent (content : Option Value) : Bool :=
  content.all isNull

end Value

end GuestConfig
