import DesignTokens.Json.Basic

/-!
# Lexemes of JSON text

The first half of reading a document cuts its text into lexemes.  The scanner
reads one character at a time and keeps what it has seen of the lexeme that it
is in.

Key definitions:

* `Lexeme` lists the kinds of lexemes.
* `Scanner` is the state between two characters, and `Scanner.step` goes over
  one.
* `lexemes?` cuts a whole text.
-/

namespace DesignTokens.Json

/-! ## Lexemes -/

/-- A lexeme of JSON text.  Numbers and strings whose literal has no value are
`none`. -/
inductive Lexeme where
  | openBrace
  | closeBrace
  | openBracket
  | closeBracket
  | colon
  | comma
  | null
  | bool (b : Bool)
  | num (n : Option Number)
  | str (s : Option String)
deriving Repr

/-- The lexeme of a single character. -/
def Lexeme.ofMark? : Char → Option Lexeme
  | '\x7b' => some .openBrace
  | '\x7d' => some .closeBrace
  | '[' => some .openBracket
  | ']' => some .closeBracket
  | ':' => some .colon
  | ',' => some .comma
  | _ => none

/-- The lexeme of a word. -/
def Lexeme.ofWord? (word : List Char) : Option Lexeme :=
  if word = ['n', 'u', 'l', 'l'] then some .null
  else if word = ['t', 'r', 'u', 'e'] then some (.bool true)
  else if word = ['f', 'a', 'l', 's', 'e'] then some (.bool false)
  else none

/-- The lexeme of a number literal. -/
def Lexeme.ofNumber? (literal : List Char) : Option Lexeme :=
  (Decimal.Literal.ofChars? literal).map (fun l => .num (Number.ofLiteral? l))

/-! ## Strings -/

/-- The part of a string that has been read.  `seen` is in reverse order,
`sound` tells that no surrogate has been alone so far, and `high` holds the
first half of a surrogate pair that waits for its second half. -/
structure Quoted where
  seen : List Char
  sound : Bool
  high : Option Nat
deriving Repr

/-- The string before its first character. -/
def Quoted.empty : Quoted := ⟨[], true, none⟩

/-- Adds a character.  A first half of a pair in front of it stays alone. -/
def Quoted.push (q : Quoted) (c : Char) : Quoted :=
  ⟨c :: q.seen, q.sound && q.high.isNone, none⟩

/-- Adds a code unit of 16 bits.  A pair of surrogates makes one character. -/
def Quoted.pushUnit (q : Quoted) (unit : Nat) : Quoted :=
  let isLow := 0xDC00 ≤ unit && unit ≤ 0xDFFF
  let isHigh := 0xD800 ≤ unit && unit ≤ 0xDBFF
  match q.high with
  | some high =>
    if isLow then
      ⟨Char.ofNat (0x10000 + (high - 0xD800) * 0x400 + (unit - 0xDC00)) :: q.seen, q.sound, none⟩
    else ⟨q.seen, false, none⟩
  | none =>
    if isHigh then ⟨q.seen, q.sound, some unit⟩
    else if isLow then ⟨q.seen, false, none⟩
    else ⟨Char.ofNat unit :: q.seen, q.sound, none⟩

/-- The string at its closing quote. -/
def Quoted.close (q : Quoted) : Option String :=
  if q.sound && q.high.isNone then some (String.ofList q.seen.reverse) else none

/-- The character that a backslash and a letter stand for. -/
def unescape? : Char → Option Char
  | '"' => some '"'
  | '\\' => some '\\'
  | '/' => some '/'
  | 'b' => some '\x08'
  | 'f' => some '\x0c'
  | 'n' => some '\n'
  | 'r' => some '\r'
  | 't' => some '\t'
  | _ => none

/-- The value of a hexadecimal digit. -/
def hexValue? (c : Char) : Option Nat :=
  if '0' ≤ c && c ≤ '9' then some (c.toNat - '0'.toNat)
  else if 'a' ≤ c && c ≤ 'f' then some (c.toNat - 'a'.toNat + 10)
  else if 'A' ≤ c && c ≤ 'F' then some (c.toNat - 'A'.toNat + 10)
  else none

/-! ## The scanner -/

/-- Where the scanner is.  What has been seen of a word or a number is in
reverse order; of a code unit, `left` digits are still to come. -/
inductive Mode where
  | between
  | inWord (seen : List Char)
  | inNumber (seen : List Char)
  | inString (q : Quoted)
  | inEscape (q : Quoted)
  | inUnit (q : Quoted) (left : Nat) (unit : Nat)
deriving Repr

/-- The scanner between two characters: the lexemes so far, in reverse order,
and the place. -/
structure Scanner where
  found : List Lexeme
  mode : Mode
deriving Repr

/-- The blanks of JSON text. -/
def isSpace (c : Char) : Bool := c == ' ' || c == '\n' || c == '\r' || c == '\t'

/-- Whether a character may be part of a number. -/
def isNumberChar (c : Char) : Bool :=
  c.isDigit || c == '-' || c == '+' || c == '.' || c == 'e' || c == 'E'

/-- Goes over a character that begins a lexeme or stands between two. -/
def Scanner.start? (found : List Lexeme) (c : Char) : Option Scanner :=
  if isSpace c then some ⟨found, .between⟩
  else if c == '"' then some ⟨found, .inString .empty⟩
  else if c.isDigit || c == '-' then some ⟨found, .inNumber [c]⟩
  else if c.isLower then some ⟨found, .inWord [c]⟩
  else (Lexeme.ofMark? c).map (fun l => ⟨l :: found, .between⟩)

/-- Goes over one character. -/
def Scanner.step (s : Scanner) (c : Char) : Option Scanner :=
  match s.mode with
  | .between => Scanner.start? s.found c
  | .inWord seen =>
    if c.isLower then some ⟨s.found, .inWord (c :: seen)⟩
    else (Lexeme.ofWord? seen.reverse).bind (fun l => Scanner.start? (l :: s.found) c)
  | .inNumber seen =>
    if isNumberChar c then some ⟨s.found, .inNumber (c :: seen)⟩
    else (Lexeme.ofNumber? seen.reverse).bind (fun l => Scanner.start? (l :: s.found) c)
  | .inString q =>
    if c == '"' then some ⟨.str q.close :: s.found, .between⟩
    else if c == '\\' then some ⟨s.found, .inEscape q⟩
    else if c.toNat < 0x20 then none
    else some ⟨s.found, .inString (q.push c)⟩
  | .inEscape q =>
    if c == 'u' then some ⟨s.found, .inUnit q 4 0⟩
    else (unescape? c).map (fun d => ⟨s.found, .inString (q.push d)⟩)
  | .inUnit q left unit =>
    (hexValue? c).map (fun d =>
      if left ≤ 1 then ⟨s.found, .inString (q.pushUnit (16 * unit + d))⟩
      else ⟨s.found, .inUnit q (left - 1) (16 * unit + d)⟩)

/-- The lexemes at the end of the text.  A string may not be open there. -/
def Scanner.finish (s : Scanner) : Option (List Lexeme) :=
  match s.mode with
  | .between => some s.found.reverse
  | .inWord seen => (Lexeme.ofWord? seen.reverse).map (fun l => (l :: s.found).reverse)
  | .inNumber seen => (Lexeme.ofNumber? seen.reverse).map (fun l => (l :: s.found).reverse)
  | _ => none

/-- The lexemes of a text, unless it is malformed. -/
def lexemes? (cs : List Char) : Option (List Lexeme) :=
  (cs.foldlM Scanner.step ⟨[], .between⟩).bind Scanner.finish

end DesignTokens.Json
