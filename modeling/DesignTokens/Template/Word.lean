import DesignTokens.Json.Reader
import DesignTokens.Template.Basic

/-!
# Words of a tag

A tag of a template is made of names, references and values written out.  Every
reader here takes its word from the front of a text and gives back what is left
of the text.

Key definitions:

* `name?` and `helperName?` read names.
* `reference?` reads a reference.
* `literal?` reads a value as the JSON text that it stands for.
* `argument?` and `callPart?` read what follows the name of a function.
-/

namespace DesignTokens

namespace Template

/-! ## Readers -/

/-- The blanks inside a tag. -/
def isTagBlank (c : Char) : Bool := c = ' ' || c = '\t' || c = '\n' || c = '\r'

/-- Drops the blanks in front of a text. -/
def skipBlanks (cs : List Char) : List Char := cs.dropWhile isTagBlank

/-- Cuts a text behind its first characters of a kind. -/
def cutWhile (p : Char → Bool) (cs : List Char) : List Char × List Char :=
  (cs.takeWhile p, cs.dropWhile p)

/-- Cuts a mark from the front of a text if it is there. -/
def cutMark (mark : Char) : List Char → List Char × List Char
  | [] => ([], [])
  | c :: cs => if c = mark then ([c], cs) else ([], c :: cs)

/-- Reads words of a kind as long as there are any. -/
def many {α : Type} (read? : List Char → Option (α × List Char)) (cs : List Char) :
    List α × List Char :=
  match read? cs with
  | none => ([], cs)
  | some (word, rest) =>
    if rest.length < cs.length then
      let (words, rest) := many read? rest
      (word :: words, rest)
    else ([], cs)
termination_by cs.length

/-! ## Names -/

/-- The characters of names. -/
def isNameChar (c : Char) : Bool :=
  c.isAlphanum || c = '_' || c = '-' || c = '$' || 0x80 ≤ c.toNat

/-- Whether a text starts with a character of names. -/
def startsName : List Char → Bool
  | [] => false
  | c :: _ => isNameChar c

/-- Reads a name. -/
def name? (cs : List Char) : Option (List Char × List Char) :=
  if startsName cs then some (cutWhile isNameChar cs) else none

/-- Reads the name of a function or of an argument, which may have slashes
behind its first character. -/
def helperName? (cs : List Char) : Option (String × List Char) :=
  if startsName cs then
    let (name, rest) := cutWhile (fun c => isNameChar c || c = '/') cs
    some (String.ofList name, rest)
  else none

/-- Whether a text starts with a word that belongs to blocks. -/
def startsKeyword (cs : List Char) : Bool :=
  match name? cs with
  | some (name, _) => name = ['a', 's'] || name = ['e', 'l', 's', 'e']
  | none => false

/-! ## References -/

/-- Whether a character stands between two steps of a reference. -/
def isSeparator (c : Char) : Bool := c = '.' || c = '/'

/-- Reads a step of a reference: a name, or any text in brackets. -/
def step? : List Char → Option (List Char × List Char)
  | '[' :: cs =>
    match cutWhile (· ≠ ']') cs with
    | (key, ']' :: rest) => some (key, rest)
    | _ => none
  | cs => name? cs

/-- Reads a step behind a point or a slash. -/
def nextStep? : List Char → Option (List Char × List Char)
  | [] => none
  | c :: cs => if isSeparator c then step? cs else none

/-- Drops the words for the whole document from the front of a reference. -/
def skipWhole : List Char → List Char
  | '.' :: '/' :: cs => cs
  | 't' :: 'h' :: 'i' :: 's' :: c :: cs =>
    if isSeparator c then cs else 't' :: 'h' :: 'i' :: 's' :: c :: cs
  | cs => cs

/-- Drops the word for the root from the front of a reference. -/
def skipRoot : List Char → List Char
  | '@' :: 'r' :: 'o' :: 'o' :: 't' :: c :: cs =>
    if isSeparator c then cs else '@' :: 'r' :: 'o' :: 'o' :: 't' :: c :: cs
  | cs => cs

/-- Drops the steps outwards from the front of a reference.  Nothing is around
the document, so they stay in it. -/
def skipOutward : List Char → List Char
  | '.' :: '.' :: c :: cs => if isSeparator c then skipOutward cs else '.' :: '.' :: c :: cs
  | cs => cs

/-- The names among the steps of a reference.  The word for the whole document
stays at its place. -/
def stepNames (steps : List (List Char)) : List String :=
  (steps.map String.ofList).filter (· != "this")

/-- Reads a reference. -/
def reference? (cs : List Char) : Option (Reference × List Char) := do
  let (mark, inner) := cutMark '@' (skipRoot (skipWhole cs))
  let (first, rest) ← step? (skipOutward inner)
  let (others, rest) := many nextStep? rest
  let written := cs.take (cs.length - rest.length)
  let names := stepNames (first :: others)
  return (⟨String.ofList written, !mark.isEmpty && !names.isEmpty, names⟩, rest)

/-! ## Values -/

/-- Reads the exponent of a number.  Without digits it is none. -/
def exponent (cs : List Char) : List Char × List Char :=
  match cs with
  | 'E' :: rest =>
    let (sign, rest) := cutMark '-' rest
    let (digits, rest) := cutWhile Char.isDigit rest
    if digits.isEmpty then ([], cs) else ('E' :: (sign ++ digits), rest)
  | _ => ([], cs)

/-- Reads a number.  What continues as a name is none. -/
def number? (cs : List Char) : Option (List Char × List Char) :=
  let (sign, rest) := cutMark '-' cs
  let (whole, rest) := cutWhile Char.isDigit rest
  let (point, rest) := cutMark '.' rest
  let (places, rest) := cutWhile Char.isDigit rest
  let (power, rest) := exponent rest
  if whole.isEmpty || startsName rest then none
  else some (sign ++ whole ++ point ++ places ++ power, rest)

/-- Reads a text up to its closing quote and gives what stands for it between
double quotes. -/
def quoted? (quote : Char) : List Char → Option (List Char × List Char)
  | [] => none
  | '\\' :: c :: cs =>
    (quoted? quote cs).map (fun (text, rest) =>
      (if c = '\'' && quote = '\'' then c :: text else '\\' :: c :: text, rest))
  | c :: cs =>
    if c = quote then some ([], cs)
    else
      (quoted? quote cs).map (fun (text, rest) =>
        (if c = '"' then '\\' :: c :: text else c :: text, rest))

/-- Reads one of the words that stand for values. -/
def constant? (cs : List Char) : Option (List Char × List Char) :=
  match name? cs with
  | some (name, rest) =>
    if ["null", "true", "false"].contains (String.ofList name) then some (name, rest) else none
  | none => none

/-- Reads a value that is written out, and gives its JSON text. -/
def literal? (cs : List Char) : Option (List Char × List Char) :=
  match cs with
  | '"' :: rest => (quoted? '"' rest).map (fun (text, rest) => ('"' :: (text ++ ['"']), rest))
  | '\'' :: rest => (quoted? '\'' rest).map (fun (text, rest) => ('"' :: (text ++ ['"']), rest))
  | _ => (constant? cs).or (number? cs)

/-! ## Arguments -/

/-- Reads an argument.  What looks like a value has to be one. -/
def argument? (cs : List Char) : Option (Argument × List Char) :=
  if startsKeyword cs then none
  else
    match literal? cs with
    | some (text, rest) =>
      (Json.readValue? (String.ofList text)).map (fun value => (.literal value, rest))
    | none => (reference? cs).map (fun (target, rest) => (.path target, rest))

/-- Reads an argument with its name in front. -/
def named? (cs : List Char) : Option ((String × Argument) × List Char) := do
  let (name, rest) ← helperName? cs
  match skipBlanks rest with
  | '=' :: rest => do
    let (argument, rest) ← argument? (skipBlanks rest)
    return ((name, argument), rest)
  | _ => none

/-- A part of a call behind the name of the function. -/
inductive CallPart where
  | positional (argument : Argument)
  | named (name : String) (argument : Argument)
deriving Repr

/-- Reads a part of a call and the blanks in front of it. -/
def callPart? (cs : List Char) : Option (CallPart × List Char) :=
  let cs := skipBlanks cs
  match named? cs with
  | some ((name, argument), rest) => some (.named name argument, rest)
  | none => (argument? cs).map (fun (argument, rest) => (.positional argument, rest))

/-- The arguments among the parts of a call that have no name. -/
def positionals (parts : List CallPart) : List Argument :=
  parts.filterMap (fun part => match part with
    | .positional argument => some argument
    | .named .. => none)

/-- The arguments among the parts of a call that have a name. -/
def nameds (parts : List CallPart) : List (String × Argument) :=
  parts.filterMap (fun part => match part with
    | .positional _ => none
    | .named name argument => some (name, argument))

end Template

end DesignTokens
