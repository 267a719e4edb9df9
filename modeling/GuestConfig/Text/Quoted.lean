import GuestConfig.Text.Printable

/-!
# Quoted texts

A message quotes the text that it is about, so that an operator can see where the text starts and
ends and which characters it really holds.  A quoted text stands between double quotes; a double
quote or a backslash in it is written after a backslash, a control character as its usual
two-character escape, and any other character without a mark of its own by its number.

## What is here

* `quoteChar`, `quote` — how a character and a text are written; `quoted` is `quote` for a
  `String`.
-/

set_option autoImplicit false

namespace GuestConfig.Text

/-- The number of a character in lower-case hexadecimal digits, between braces. -/
def numberEscape (c : Char) : List Char :=
  ['\\', 'u', '\x7b'] ++ Nat.toDigits 16 c.toNat ++ ['\x7d']

/-- One character of a quoted text. -/
def quoteChar (c : Char) : List Char :=
  match c with
  | '"' => ['\\', '"']
  | '\\' => ['\\', '\\']
  | '\n' => ['\\', 'n']
  | '\r' => ['\\', 'r']
  | '\t' => ['\\', 't']
  | '\x00' => ['\\', '0']
  | c => if isPrintable c then [c] else numberEscape c

/-- A text between double quotes, every character visible. -/
def quote (cs : List Char) : List Char :=
  '"' :: cs.flatMap quoteChar ++ ['"']

/-- `quote` for a `String`. -/
def quoted (s : String) : String :=
  String.ofList (quote s.toList)

end GuestConfig.Text
