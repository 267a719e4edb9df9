import GuestConfig.Toml.Lexeme
import GuestConfig.Toml.Table

/-!
# TOML documents

A document is read line by line: a line opens a table, or gives a key of the table that was opened
last a value, or is empty but for a comment.

## What is here

* `key?`, `path?` — a key, and several keys between dots.
* `value?`, `items?`, `pairs?` — values; lists may stretch over lines, inline tables may not.
* `Value.ofToml?` — a whole document as a table.
-/

set_option autoImplicit false

namespace GuestConfig.Toml

/-! ## Keys -/

/-- Whether a character may stand in a key without quotes. -/
def isKeyChar (c : Char) : Bool :=
  c.isAlphanum || c == '_' || c == '-'

/-- A key at the front of a text. -/
def key? : List Char → Option (String × List Char)
  | '"' :: cs => (basicText? cs).map fun (s, rest) ↦ (String.ofList s, rest)
  | '\'' :: cs => (literalText? cs).map fun (s, rest) ↦ (String.ofList s, rest)
  | cs =>
    let s := cs.takeWhile isKeyChar
    if s.isEmpty then none else some (String.ofList s, cs.dropWhile isKeyChar)

/-- Keys between dots at the front of a text, the last one apart.  The fuel bounds their number. -/
def path? : (fuel : Nat) → List Char → Option ((List String × String) × List Char)
  | 0, _ => none
  | fuel + 1, cs => do
    let (key, rest) ← key? (skipBlanks cs)
    match skipBlanks rest with
    | '.' :: rest => do
      let ((path, last), rest) ← path? fuel rest
      some ((key :: path, last), rest)
    | rest => some (([], key), rest)

/-! ## Values -/

mutual

/-- A value at the front of a text.  The fuel bounds the nesting and the length of lists. -/
def value? : (fuel : Nat) → List Char → Option (Value × List Char)
  | 0, _ => none
  | fuel + 1, cs =>
    match cs with
    | 't' :: 'r' :: 'u' :: 'e' :: rest => some (.bool true, rest)
    | 'f' :: 'a' :: 'l' :: 's' :: 'e' :: rest => some (.bool false, rest)
    | '[' :: rest => (items? fuel rest).map fun (items, rest) ↦ (.list items, rest)
    | '\x7b' :: rest =>
      match skipBlanks rest with
      | '\x7d' :: rest => some (.table [], rest)
      | rest => (pairs? fuel [] rest).map fun (entries, rest) ↦ (entries.toValue, rest)
    | '"' :: _ => (text? cs).map fun (s, rest) ↦ (.text (String.ofList s), rest)
    | '\'' :: _ => (text? cs).map fun (s, rest) ↦ (.text (String.ofList s), rest)
    | _ => number? cs

/-- The items of a list up to its closing bracket; a comma may stand behind the last one. -/
def items? : (fuel : Nat) → List Char → Option (List Value × List Char)
  | 0, _ => none
  | fuel + 1, cs =>
    match skipSpace cs with
    | ']' :: rest => some ([], rest)
    | cs => do
      let (item, rest) ← value? fuel cs
      match skipSpace rest with
      | ',' :: rest => do
        let (items, rest) ← items? fuel rest
        some (item :: items, rest)
      | ']' :: rest => some ([item], rest)
      | _ => none

/-- The pairs of an inline table up to its closing brace, on top of those before them. -/
def pairs? : (fuel : Nat) → Entries → List Char → Option (Entries × List Char)
  | 0, _, _ => none
  | fuel + 1, entries, cs => do
    let ((path, key), rest) ← path? (fuel + 1) cs
    match rest with
    | '=' :: rest => do
      let (v, rest) ← value? fuel (skipBlanks rest)
      let entries ← entries.assign path key v
      match skipBlanks rest with
      | ',' :: rest => pairs? fuel entries rest
      | '\x7d' :: rest => some (entries, rest)
      | _ => none
    | _ => none

end

/-! ## Lines -/

/-- A document that was read in part. -/
structure Document where
  /-- The outermost table. -/
  root : Entries
  /-- The path to the table that was opened last. -/
  current : List String

namespace Document

/-- The document before its first line. -/
def empty : Document :=
  ⟨[], []⟩

/-- Opens the table of a header. -/
def openTable (doc : Document) (path : List String) (key : String) : Option Document :=
  (doc.root.update false (fun _ entries ↦ entries.openTable key) .header path).map fun root ↦
    ⟨root, path ++ [key]⟩

/-- Opens one more table of the list of a header. -/
def openItem (doc : Document) (path : List String) (key : String) : Option Document :=
  (doc.root.update false (fun _ entries ↦ entries.openItem key) .header path).map fun root ↦
    ⟨root, path ++ [key]⟩

/-- Gives a key in the table that was opened last a value. -/
def assign (doc : Document) (path : List String) (key : String) (v : Value) : Option Document :=
  (doc.root.update false (fun _ entries ↦ entries.assign path key v) .header doc.current).map
    fun root ↦ { doc with root := root }

/-- What a line adds to a document, and what follows on the line. -/
def line? (doc : Document) (cs : List Char) : Option (Document × List Char) :=
  let fuel := cs.length + 1
  match cs with
  | '[' :: '[' :: rest => do
    let ((path, key), rest) ← path? fuel rest
    match rest with
    | ']' :: ']' :: rest => (doc.openItem path key).map fun doc ↦ (doc, rest)
    | _ => none
  | '[' :: rest => do
    let ((path, key), rest) ← path? fuel rest
    match rest with
    | ']' :: rest => (doc.openTable path key).map fun doc ↦ (doc, rest)
    | _ => none
  | _ => do
    let ((path, key), rest) ← path? fuel cs
    match rest with
    | '=' :: rest => do
      let (v, rest) ← value? fuel (skipBlanks rest)
      (doc.assign path key v).map fun doc ↦ (doc, rest)
    | _ => none

/-- Reads the lines that are left.  The fuel bounds their number. -/
def lines? : (fuel : Nat) → Document → List Char → Option Document
  | 0, _, _ => none
  | fuel + 1, doc, cs =>
    match skipBlanks cs with
    | [] => some doc
    | cs =>
      match endOfLine? cs with
      | some rest => lines? fuel doc rest
      | none => do
        let (doc, rest) ← doc.line? cs
        lines? fuel doc (← endOfLine? rest)

end Document

end GuestConfig.Toml

namespace GuestConfig

/-- Reads a TOML document; a mark of byte order may stand in front. -/
def Value.ofToml? (s : String) : Option Value :=
  let cs :=
    match s.toList with
    | '\uFEFF' :: cs => cs
    | cs => cs
  (Toml.Document.lines? (cs.length + 1) .empty cs).map fun doc ↦ doc.root.toValue

end GuestConfig
