import GuestConfig.Number.Floating
import GuestConfig.Text.Hex
import GuestConfig.Value.Basic

/-!
# Values as JSON text

The reader takes JSON as it is defined, with two decisions of its own.  A number without a point
and without an exponent is a whole number as long as it fits 64 bits, signed or unsigned; every
other number, and a zero with a minus sign, is the nearest floating point number.  Of two members
of an object with the same name the later one counts.

## What is here

* `Value.ofJson?` — reads a text that holds one value and nothing else but blanks.
* `Value.json` — writes a value on one line, floating point numbers in their shortest decimal.
-/

set_option autoImplicit false

namespace GuestConfig

open Text (digitsValue hexValue? isDigits)

namespace Json

/-! ## Numbers -/

/-- The value of a number without a point and without an exponent. -/
def integer (negative : Bool) (ds : List Char) : Value :=
  let n := digitsValue ds
  if !negative && n < UInt64.size then .int n
  else if negative && 0 < n && Int64.minValue.toInt ≤ -n then .int (-n)
  else .float (if negative then -Number.nearest n 0 else Number.nearest n 0)

/-- The characters that a number consists of. -/
def isNumberChar (c : Char) : Bool :=
  c.isDigit || c == '-' || c == '+' || c == '.' || c == 'e' || c == 'E'

/-- The value of the text of a number. -/
def number? (cs : List Char) : Option Value :=
  let (negative, body) := match cs with
    | '-' :: rest => (true, rest)
    | _ => (false, cs)
  match body with
  | c :: _ =>
    if !c.isDigit then none
    else if isDigits body then some (integer negative body)
    else (Number.unsignedFloating? body).map fun x ↦ .float (if negative then -x else x)
  | [] => none

/-! ## Texts -/

/-- The code point of a character after a backslash. -/
def escape? : Char → Option Nat
  | '"' => some 0x22
  | '\\' => some 0x5C
  | '/' => some 0x2F
  | 'b' => some 8
  | 'f' => some 12
  | 'n' => some 10
  | 'r' => some 13
  | 't' => some 9
  | _ => none

/-- The code points of a text up to its closing quote, and what follows the quote.  A code point
that was given by number may still be half of a pair. -/
def codePoints? : List Char → Option (List Nat × List Char)
  | [] => none
  | '"' :: rest => some ([], rest)
  | '\\' :: 'u' :: a :: b :: c :: d :: rest => do
    let n ← hexValue? [a, b, c, d]
    let (points, rest) ← codePoints? rest
    some (n :: points, rest)
  | '\\' :: c :: rest => do
    let n ← escape? c
    let (points, rest) ← codePoints? rest
    some (n :: points, rest)
  | c :: rest => do
    let (points, rest) ← codePoints? rest
    some (c.toNat :: points, rest)

/-- The characters of a list of code points, the two halves of a pair joined. -/
def joinPairs? : List Nat → Option (List Char)
  | [] => some []
  | [n] => if h : n.isValidChar then some [Char.ofNatAux n h] else none
  | n :: m :: rest =>
    if 0xD800 ≤ n ∧ n < 0xDC00 ∧ 0xDC00 ≤ m ∧ m < 0xE000 then
      (joinPairs? rest).map (Char.ofNat (0x10000 + (n - 0xD800) * 0x400 + (m - 0xDC00)) :: ·)
    else if h : n.isValidChar then (joinPairs? (m :: rest)).map (Char.ofNatAux n h :: ·)
    else none

/-- A text after its opening quote. -/
def text? (cs : List Char) : Option (String × List Char) := do
  let (points, rest) ← codePoints? cs
  let chars ← joinPairs? points
  some (String.ofList chars, rest)

/-! ## Values -/

/-- A text without the blanks in front. -/
def skip (cs : List Char) : List Char :=
  cs.dropWhile fun c ↦ c == ' ' || c == '\n' || c == '\r' || c == '\t'

/-- A text without the given character in front, blanks aside. -/
def expect? (c : Char) (cs : List Char) : Option (List Char) :=
  match skip cs with
  | d :: rest => if c = d then some rest else none
  | [] => none

mutual

/-- A value at the front of a text.  The depth bounds the nesting. -/
def value? : Nat → List Char → Option (Value × List Char)
  | 0, _ => none
  | depth + 1, cs =>
    match skip cs with
    | 'n' :: 'u' :: 'l' :: 'l' :: rest => some (.null, rest)
    | 't' :: 'r' :: 'u' :: 'e' :: rest => some (.bool true, rest)
    | 'f' :: 'a' :: 'l' :: 's' :: 'e' :: rest => some (.bool false, rest)
    | '"' :: rest => (text? rest).map fun (s, rest) ↦ (.text s, rest)
    | '[' :: rest =>
      match expect? ']' rest with
      | some rest => some (.list [], rest)
      | none => (items? depth rest).map fun (items, rest) ↦ (.list items, rest)
    | '\x7b' :: rest =>
      match expect? '\x7d' rest with
      | some rest => some (.table [], rest)
      | none => (members? depth rest).map fun (members, rest) ↦ (.object members, rest)
    | cs => (number? (cs.takeWhile isNumberChar)).map fun n ↦ (n, cs.dropWhile isNumberChar)

/-- The items of a list, up to its closing bracket. -/
def items? : Nat → List Char → Option (List Value × List Char)
  | 0, _ => none
  | depth + 1, cs => do
    let (item, rest) ← value? depth cs
    match expect? ',' rest with
    | some rest =>
      let (items, rest) ← items? depth rest
      some (item :: items, rest)
    | none => (expect? ']' rest).map fun rest ↦ ([item], rest)

/-- The members of an object, up to its closing brace. -/
def members? : Nat → List Char → Option (List (String × Value) × List Char)
  | 0, _ => none
  | depth + 1, cs => do
    let rest ← expect? '"' cs
    let (name, rest) ← text? rest
    let rest ← expect? ':' rest
    let (member, rest) ← value? depth rest
    match expect? ',' rest with
    | some rest =>
      let (members, rest) ← members? depth rest
      some ((name, member) :: members, rest)
    | none => (expect? '\x7d' rest).map fun rest ↦ ([(name, member)], rest)

end

/-! ## Writing -/

/-- One character of a text. -/
def escaped (c : Char) : List Char :=
  match c with
  | '"' => ['\\', '"']
  | '\\' => ['\\', '\\']
  | c =>
    if c.toNat < 0x20 then
      ['\\', 'u', '0', '0', Nat.digitChar (c.toNat / 16), Nat.digitChar (c.toNat % 16)]
    else [c]

/-- A text between quotes. -/
def writeText (s : String) : String :=
  String.ofList ('"' :: s.toList.flatMap escaped ++ ['"'])

end Json

namespace Value

/-- Reads a JSON text; its length bounds the nesting. -/
def ofJson? (s : String) : Option Value := do
  let cs := s.toList
  let (v, rest) ← Json.value? (cs.length + 1) cs
  if (Json.skip rest).isEmpty then some v else none

mutual

/-- Writes a value as JSON. -/
def json : Value → String
  | null => "null"
  | bool b => if b then "true" else "false"
  | int n => Text.integer n
  | float x => Number.floatingText x
  | text s => Json.writeText s
  | list items => "[" ++ String.intercalate "," (jsonItems items) ++ "]"
  | table entries => "\x7b" ++ String.intercalate "," (jsonMembers entries) ++ "\x7d"

/-- Writes the items of a list. -/
def jsonItems : List Value → List String
  | [] => []
  | item :: items => item.json :: jsonItems items

/-- Writes the members of an object. -/
def jsonMembers : List (String × Value) → List String
  | [] => []
  | (name, member) :: members => (Json.writeText name ++ ":" ++ member.json) :: jsonMembers members

end

end Value

end GuestConfig
