import GuestConfig.Checked
import GuestConfig.Error.Wire
import GuestConfig.Text.Split
import GuestConfig.Token

/-!
# Option lists

Most fields of the API's flat configuration are lists of options: `local-lvm:32,cache=none,ssd=1`.
An option is a name with a value, and only the very first entry may do without a name.  Readers ask
for the options that they know, so that an option of a later version of the product does no harm.

## What is here

* `Entry` and `OptionList` — the entries in their order.
* `OptionList.parse`, `OptionList.text` — the two directions.  Blanks around entries, names and
  values do not matter, nor do empty entries; an entry is divided at its first `=`.
* `leading?`, `get?`, `word?`, `token?`, `checked?`, `flag?` — what readers ask for.  Of two options
  with one name the first one counts.
* `positional`, `pair`, `optional`, `flag`, `unsetFlag` — how lists are put together.  Each gives
  the entries that it adds, which are none where there is nothing to say.
-/

set_option autoImplicit false

namespace GuestConfig

open Text (trim splitOn splitOnce)

/-- The truth value that a word stands for, in any case. -/
def parseFlag? (s : String) : Option Bool :=
  match String.ofList ((trim s.toList).map Char.toLower) with
  | "1" | "on" | "yes" | "true" => some true
  | "0" | "off" | "no" | "false" => some false
  | _ => none

/-- The digit that a truth value is written as. -/
def flagText (b : Bool) : String :=
  if b then "1" else "0"

@[simp] theorem parseFlag?_flagText (b : Bool) : parseFlag? (flagText b) = some b := by
  cases b <;> decide +kernel

/-- One option, or an entry without a name. -/
structure Entry where
  /-- The name of the option. -/
  name : Option String
  /-- Its value, or the entry itself. -/
  value : String
  deriving DecidableEq, Repr

namespace Entry

/-- Divides an entry at its first `=`. -/
def parse (cs : List Char) : Entry :=
  match splitOnce '=' cs with
  | some (name, value) => ⟨some (String.ofList (trim name)), String.ofList (trim value)⟩
  | none => ⟨none, String.ofList cs⟩

/-- Writes an entry. -/
def text (e : Entry) : String :=
  match e.name with
  | some name => name ++ "=" ++ e.value
  | none => e.value

end Entry

/-- The options of a field, in their order. -/
structure OptionList where
  /-- The entries. -/
  entries : List Entry
  deriving DecidableEq, Repr

namespace OptionList

/-! ## Text -/

/-- Reads a list of options. -/
def parse (s : String) : OptionList :=
  ⟨((splitOn ',' s.toList).map trim).filterMap fun piece ↦
    if piece.isEmpty then none else some (Entry.parse piece)⟩

/-- Writes a list of options. -/
def text (options : OptionList) : String :=
  String.intercalate "," (options.entries.map Entry.text)

/-! ## Look-up -/

/-- The first entry, if it has no name. -/
def leading? (options : OptionList) : Option String :=
  match options.entries with
  | ⟨none, value⟩ :: _ => some value
  | _ => none

/-- The value of the first option with a given name. -/
def get? (options : OptionList) (name : String) : Option String :=
  (options.entries.find? fun e ↦ e.name = some name).map Entry.value

/-- The options that have names. -/
def pairs (options : OptionList) : List (String × String) :=
  options.entries.filterMap fun e ↦ e.name.map fun name ↦ (name, e.value)

/-- The value of an option, read by `read`. -/
def read? {α : Type} (options : OptionList) (name : String) (read : String → Option α) :
    Except WireError (Option α) :=
  match options.get? name with
  | none => .ok none
  | some value =>
    match read value with
    | some a => .ok (some a)
    | none => .error (.invalidOption name value)

/-- The value of an option, decoded by `decode`. -/
def decoded? {α : Type} (options : OptionList) (name : String)
    (decode : String → Except WireError α) : Except WireError (Option α) :=
  match options.get? name with
  | none => .ok none
  | some value => (decode value).map some

/-- An option that is a number of fixed width. -/
def word? {α : Type} [Word α] (options : OptionList) (name : String) :
    Except WireError (Option α) :=
  options.read? name fun s ↦ Text.word? s.toList

/-- An option that is a token. -/
def token? {α : Type} [Token α] (options : OptionList) (name : String) :
    Except WireError (Option α) :=
  options.read? name Token.ofName?

/-- An option that is a text with a grammar. -/
def checked? {g : Grammar} (options : OptionList) (name : String) :
    Except WireError (Option (Checked g)) :=
  options.read? name fun s ↦ (Checked.parse s).toOption

/-- An option that is a truth value. -/
def flag? (options : OptionList) (name : String) : Except WireError (Option Bool) :=
  options.read? name parseFlag?

theorem read?_of_get?_eq_none {α : Type} {options : OptionList} {name : String}
    (read : String → Option α) (h : options.get? name = none) :
    options.read? name read = .ok none := by
  simp [read?, h]

/-! ## Assembly -/

/-- An entry without a name. -/
def positional (value : String) : List Entry :=
  [⟨none, value⟩]

/-- An option. -/
def pair (name value : String) : List Entry :=
  [⟨some name, value⟩]

/-- An option that may be absent. -/
def optional (name : String) : Option String → List Entry
  | some value => pair name value
  | none => []

/-- An option that is written when it is set. -/
def flag (name : String) (set : Bool) : List Entry :=
  if set then pair name "1" else []

/-- An option that is written when it is not set. -/
def unsetFlag (name : String) (set : Bool) : List Entry :=
  if set then [] else pair name "0"

end OptionList

end GuestConfig
