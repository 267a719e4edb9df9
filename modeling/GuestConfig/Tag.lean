import GuestConfig.Plan.Step
import GuestConfig.Sorted.Set
import GuestConfig.Value.Reader

/-!
# Tags

A guest carries a set of short labels.  They are stored in one text between semicolons; older
versions of the product put commas or spaces between them.

## What is here

* `Tag` — a label.
* `Tags.text`, `Tags.ofWire` — the set as it is stored, in the two directions.
* `Tags.plan` — the steps: the set is replaced as a whole, and an empty one is removed.
-/

set_option autoImplicit false

namespace GuestConfig

open Text (split)

/-- A tag starts with a letter, a digit or an underscore. -/
def isTagStart (c : Char) : Bool :=
  c.isAlphanum || c == '_'

/-- A tag goes on with these and hyphens, plus signs and dots. -/
def isTagChar (c : Char) : Bool :=
  isTagStart c || c == '-' || c == '+' || c == '.'

/-- The most bytes in a tag. -/
def greatestTagSize : Nat := 124

/-- What is wrong with a tag; its length is looked at first. -/
def tagViolation? (s : String) : Option RuleError :=
  if greatestTagSize < s.utf8ByteSize then some (.tagLength s)
  else
    match s.toList with
    | c :: rest => if isTagStart c && rest.all isTagChar then none else some (.tag s)
    | [] => some (.tag s)

/-- A label of a guest. -/
abbrev Tag : Type :=
  Checked ⟨tagViolation?⟩

/-- Tags are ordered as texts. -/
instance : StrictOrder Tag :=
  inferInstanceAs (StrictOrder (Checked ⟨tagViolation?⟩))

/-- The labels of a guest. -/
abbrev Tags : Type :=
  SortedSet Tag

namespace Tags

/-- The key of the tags. -/
def key : String :=
  "tags"

/-- Whether a character stands between tags. -/
def isSeparator (c : Char) : Bool :=
  c == ';' || c == ',' || c == ' '

/-- The tags as they are stored. -/
def text (tags : Tags) : String :=
  String.intercalate ";" (tags.toList.map Checked.text)

/-- Reads stored tags; pieces without a character do not count. -/
def decode (s : String) : Except WireError Tags :=
  (((split isSeparator s.toList).filter (!·.isEmpty)).mapM fun piece ↦
    Checked.decode (String.ofList piece)).map .ofList

/-- The tags of a guest, if it has any. -/
def ofWire (w : Wire) : Except WireError (Option Tags) :=
  (w.decoded? key decode).map fun tags ↦ tags.filter (!·.isEmpty)

/-- The steps for the tags that are asked for. -/
def plan (current desired : Option Tags) : Draft :=
  match desired with
  | none => []
  | some tags =>
    if current.getD .empty = tags then []
    else if tags.isEmpty then [.delete key false]
    else [.set key (.text tags.text) false]

/-- Reads tags. -/
def ofValue? (v : Value) : Option Tags :=
  (v.list? Value.checked?).map .ofList

/-- Writes tags. -/
def toValue (tags : Tags) : Value :=
  .ofList .ofChecked tags.toList

end Tags

end GuestConfig
