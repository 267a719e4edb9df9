import GuestConfig.Number.Floating
import GuestConfig.Text.Hex
import GuestConfig.Value.Basic

/-!
# The lexemes of TOML

Blanks, comments, texts and numbers, as TOML defines them.  A reader takes what it reads off the
front of a text and gives back the rest.

## What is here

* `skipBlanks`, `skipSpace`, `lineEnd?`, `endOfLine?` — what stands between lexemes, on one line and
  across lines.
* `basicText?`, `literalText?`, `longBasicText?`, `longLiteralText?` — the four kinds of texts, from
  behind their opening quotes.
* `number?` — whole numbers in four bases, and floating point numbers.  Dates and times are not
  read: nothing in a description is one.
-/

set_option autoImplicit false

namespace GuestConfig.Toml

open GuestConfig.Text (digitsValue hexValue? isDigits isHexDigit split splitOnce)

/-! ## Between lexemes -/

/-- A text without the blanks in front. -/
def skipBlanks (cs : List Char) : List Char :=
  cs.dropWhile fun c ↦ c == ' ' || c == '\t'

/-- Whether a character may stand in a comment, and in a text on one line. -/
def isPlain (c : Char) : Bool :=
  c == '\t' || (0x20 ≤ c.toNat && c.toNat ≠ 0x7F)

/-- A text without the comment in front, if there is one. -/
def skipComment : List Char → List Char
  | '#' :: cs => cs.dropWhile isPlain
  | cs => cs

/-- What follows a line end at the front of a text. -/
def lineEnd? : List Char → Option (List Char)
  | '\n' :: cs => some cs
  | '\r' :: '\n' :: cs => some cs
  | _ => none

/-- What follows the line that nothing else may stand on. -/
def endOfLine? (cs : List Char) : Option (List Char) :=
  match skipComment (skipBlanks cs) with
  | [] => some []
  | cs => lineEnd? cs

/-- A text without the blanks, line ends and comments in front. -/
def skipSpaceIn (inComment : Bool) : List Char → List Char
  | [] => []
  | '\n' :: cs => skipSpaceIn false cs
  | '\r' :: '\n' :: cs => skipSpaceIn false cs
  | c :: cs =>
    if inComment then if isPlain c then skipSpaceIn true cs else c :: cs
    else if c = ' ' ∨ c = '\t' then skipSpaceIn false cs
    else if c = '#' then skipSpaceIn true cs
    else c :: cs

/-- A text without the blanks, line ends and comments in front. -/
def skipSpace (cs : List Char) : List Char :=
  skipSpaceIn false cs

/-! ## Texts -/

/-- A text that was read, and what follows it. -/
abbrev Lexeme : Type :=
  List Char × List Char

/-- A lexeme with one more character in front. -/
def Lexeme.cons (c : Char) (lexeme : Lexeme) : Lexeme :=
  (c :: lexeme.1, lexeme.2)

/-- The character with a number that is given in hexadecimal digits. -/
def charOfHex? (ds : List Char) : Option Char := do
  let n ← hexValue? ds
  if h : n.isValidChar then some (Char.ofNatAux n h) else none

/-- The character that stands for itself after a backslash, or that a letter stands for. -/
def escape? : Char → Option Char
  | 'b' => some '\x08'
  | 't' => some '\t'
  | 'n' => some '\n'
  | 'f' => some '\x0c'
  | 'r' => some '\r'
  | '"' => some '"'
  | '\\' => some '\\'
  | _ => none

/-- A text with escapes on one line, up to its closing quote. -/
def basicText? : List Char → Option Lexeme
  | [] => none
  | '"' :: cs => some ([], cs)
  | '\\' :: 'u' :: a :: b :: c :: d :: cs => do
    let char ← charOfHex? [a, b, c, d]
    (basicText? cs).map (Lexeme.cons char)
  | '\\' :: 'U' :: a :: b :: c :: d :: e :: f :: g :: h :: cs => do
    let char ← charOfHex? [a, b, c, d, e, f, g, h]
    (basicText? cs).map (Lexeme.cons char)
  | '\\' :: c :: cs => do
    let char ← escape? c
    (basicText? cs).map (Lexeme.cons char)
  | c :: cs => if isPlain c && c != '\\' then (basicText? cs).map (Lexeme.cons c) else none

/-- A text without escapes on one line, up to its closing quote. -/
def literalText? : List Char → Option Lexeme
  | [] => none
  | '\'' :: cs => some ([], cs)
  | c :: cs => if isPlain c then (literalText? cs).map (Lexeme.cons c) else none

/-- A text with escapes on several lines, up to its closing quotes; up to two quotes may stand right
before these.  After a backslash at the end of a line, `skipping` is on until something other than a
blank comes. -/
def longBasicText? (skipping : Bool) : List Char → Option Lexeme
  | [] => none
  | '"' :: '"' :: '"' :: '"' :: '"' :: cs => some (['"', '"'], cs)
  | '"' :: '"' :: '"' :: '"' :: cs => some (['"'], cs)
  | '"' :: '"' :: '"' :: cs => some ([], cs)
  | '\r' :: '\n' :: cs =>
    if skipping then longBasicText? true cs
    else (longBasicText? false cs).map (Lexeme.cons '\n')
  | '\n' :: cs =>
    if skipping then longBasicText? true cs
    else (longBasicText? false cs).map (Lexeme.cons '\n')
  | '\\' :: 'u' :: a :: b :: c :: d :: cs => do
    let char ← charOfHex? [a, b, c, d]
    (longBasicText? false cs).map (Lexeme.cons char)
  | '\\' :: 'U' :: a :: b :: c :: d :: e :: f :: g :: h :: cs => do
    let char ← charOfHex? [a, b, c, d, e, f, g, h]
    (longBasicText? false cs).map (Lexeme.cons char)
  | '\\' :: c :: cs =>
    match escape? c with
    | some char => (longBasicText? false cs).map (Lexeme.cons char)
    | none =>
      if (lineEnd? (skipBlanks (c :: cs))).isSome then longBasicText? true (c :: cs) else none
  | c :: cs =>
    if skipping && (c == ' ' || c == '\t') then longBasicText? true cs
    else if isPlain c && c != '\\' then (longBasicText? false cs).map (Lexeme.cons c)
    else none

/-- A text without escapes on several lines, up to its closing quotes; up to two quotes may stand
right before these. -/
def longLiteralText? : List Char → Option Lexeme
  | [] => none
  | '\'' :: '\'' :: '\'' :: '\'' :: '\'' :: cs => some (['\'', '\''], cs)
  | '\'' :: '\'' :: '\'' :: '\'' :: cs => some (['\''], cs)
  | '\'' :: '\'' :: '\'' :: cs => some ([], cs)
  | '\r' :: '\n' :: cs => (longLiteralText? cs).map (Lexeme.cons '\n')
  | '\n' :: cs => (longLiteralText? cs).map (Lexeme.cons '\n')
  | c :: cs => if isPlain c then (longLiteralText? cs).map (Lexeme.cons c) else none

/-- A text without the line end right behind its opening quotes. -/
def skipFirstLineEnd (cs : List Char) : List Char :=
  (lineEnd? cs).getD cs

/-- A text of any kind, with its opening quotes. -/
def text? : List Char → Option Lexeme
  | '"' :: '"' :: '"' :: cs => longBasicText? false (skipFirstLineEnd cs)
  | '"' :: cs => basicText? cs
  | '\'' :: '\'' :: '\'' :: cs => longLiteralText? (skipFirstLineEnd cs)
  | '\'' :: cs => literalText? cs
  | _ => none

/-! ## Numbers -/

/-- Whether a character is part of a number, or of what is mistaken for one. -/
def isNumberChar (c : Char) : Bool :=
  c.isAlphanum || c == '_' || c == '+' || c == '-' || c == '.' || c == ':'

/-- Digits without the underscores between them. -/
def joined? (isDigit : Char → Bool) (cs : List Char) : Option (List Char) :=
  let groups := split (· == '_') cs
  if groups.all fun g ↦ !g.isEmpty && g.all isDigit then some groups.flatten else none

/-- Decimal digits without a zero in front. -/
def wholeDigits? (cs : List Char) : Option (List Char) :=
  (joined? Char.isDigit cs).filter fun ds ↦ ds.head? != some '0' || ds.length == 1

/-- The value of digits in a base. -/
def valueIn (base : Nat) (ds : List Char) : Nat :=
  ds.foldl (fun n c ↦ base * n + (GuestConfig.Text.hexDigit? c).getD 0) 0

/-- A whole number of 64 bits with a sign. -/
def ofInteger? (n : Int) : Option Value :=
  if Int64.minValue.toInt ≤ n ∧ n ≤ Int64.maxValue.toInt then some (.int n) else none

/-- Digits with an optional sign, with the underscores gone. -/
def exponentDigits? : List Char → Option (List Char)
  | '-' :: cs => (joined? Char.isDigit cs).map ('-' :: ·)
  | '+' :: cs => joined? Char.isDigit cs
  | cs => joined? Char.isDigit cs

/-- A floating point number without a sign: a whole number with a fraction or an exponent. -/
def floating? (cs : List Char) : Option Float := do
  let (mantissa, exponent) :=
    match splitOnce 'e' (cs.map Char.toLower) with
    | some (mantissa, exponent) => (mantissa, some exponent)
    | none => (cs, none)
  let exponent ←
    match exponent with
    | some cs => (exponentDigits? cs).map ('e' :: ·)
    | none => some []
  match splitOnce '.' mantissa with
  | some (whole, fraction) => do
    let whole ← wholeDigits? whole
    let fraction ← joined? Char.isDigit fraction
    Number.unsignedFloating? (whole ++ '.' :: fraction ++ exponent)
  | none =>
    if exponent.isEmpty then none
    else do
      let whole ← wholeDigits? mantissa
      Number.unsignedFloating? (whole ++ exponent)

/-- A decimal number after its sign. -/
def decimal? (negative : Bool) (cs : List Char) : Option Value :=
  match String.ofList cs with
  | "inf" => some (.float (if negative then -(1.0 / 0.0) else 1.0 / 0.0))
  | "nan" => some (.float (0.0 / 0.0))
  | _ =>
    match wholeDigits? cs with
    | some ds => ofInteger? (if negative then -(digitsValue ds : Int) else digitsValue ds)
    | none => (floating? cs).map fun x ↦ .float (if negative then -x else x)

/-- Whether a character is a digit below eight. -/
def isOctalDigit (c : Char) : Bool :=
  '0' ≤ c && c ≤ '7'

/-- Whether a character is a digit below two. -/
def isBinaryDigit (c : Char) : Bool :=
  c == '0' || c == '1'

/-- The number that a lexeme stands for. -/
def numberOf? : List Char → Option Value
  | '0' :: 'x' :: cs => (joined? isHexDigit cs).bind fun ds ↦ ofInteger? (valueIn 16 ds)
  | '0' :: 'o' :: cs => (joined? isOctalDigit cs).bind fun ds ↦ ofInteger? (valueIn 8 ds)
  | '0' :: 'b' :: cs => (joined? isBinaryDigit cs).bind fun ds ↦ ofInteger? (valueIn 2 ds)
  | '+' :: cs => decimal? false cs
  | '-' :: cs => decimal? true cs
  | cs => decimal? false cs

/-- A number at the front of a text. -/
def number? (cs : List Char) : Option (Value × List Char) :=
  (numberOf? (cs.takeWhile isNumberChar)).map fun v ↦ (v, cs.dropWhile isNumberChar)

end GuestConfig.Toml
