/-!
# Arguments of a command line

Arguments are options, which start with hyphens, and other words in their
order.

Key definitions:

* `OptionSpec` describes an option, and `Operands` what a command wants besides.
* `Refusal` lists why a command line is not carried out.
* `Arguments.scan` sorts the arguments of a command.
-/

namespace DesignTokens

/-- What follows an option: nothing, a text, or a path, which cannot be
empty. -/
inductive OptionValue where
  | nothing
  | text
  | path
deriving Repr, DecidableEq

/-- Whether a text can stand where a value is due. -/
def OptionValue.admits (v : OptionValue) (value : String) : Bool := v ≠ .path || value ≠ ""

/-- An option with its long name and maybe a letter. -/
structure OptionSpec where
  long : String
  short : Option Char
  value : OptionValue
deriving Repr, DecidableEq

/-- What a command wants besides options: words, or the name of one of its own
commands. -/
inductive Operands where
  | words (kinds : List OptionValue)
  | commands (names : List String)
deriving Repr, DecidableEq

/-- Why a command line is not carried out: it asks for help or for the version,
or it is wrong. -/
inductive Refusal where
  | help
  | version
  | wrong
deriving Repr, DecidableEq

/-- The arguments of a command: the options by their long names with their
values, the words, and what is left for another command to read. -/
structure Arguments where
  options : List (String × String)
  words : List String
  rest : List String
deriving Repr, DecidableEq

namespace Arguments

/-- No arguments. -/
def none : Arguments := ⟨[], [], []⟩

/-- Whether an option is there. -/
def has (a : Arguments) (long : String) : Bool := (a.options.lookup long).isSome

/-- The value of an option. -/
def value? (a : Arguments) (long : String) : Option String := a.options.lookup long

/-! ## Options -/

/-- Adds an option in front.  No option can be there twice. -/
def addOption (spec : OptionSpec) (value : String) (a : Arguments) : Except Refusal Arguments :=
  if a.has spec.long || !spec.value.admits value then .error .wrong
  else .ok { a with options := (spec.long, value) :: a.options }

/-- What an option asks for instead of a command. -/
def request? (spec : OptionSpec) : Option Refusal :=
  if spec.long = "help" then some .help
  else if spec.long = "version" then some .version
  else .none

/-- Cuts the text of a long option at its first equals sign. -/
def cutValue : List Char → List Char × Option (List Char)
  | [] => ([], .none)
  | '=' :: cs => ([], some cs)
  | c :: cs =>
    let (name, value) := cutValue cs
    (c :: name, value)

/-- Whether an argument can be the value of the option before it. -/
def isValue (argument : String) : Bool :=
  match argument.toList with
  | '-' :: _ :: _ => false
  | _ => true

/-- What an option does to a command line. -/
inductive Demand where
  /-- The option is complete. -/
  | met (spec : OptionSpec) (value : String)
  /-- The value is the next argument. -/
  | next (spec : OptionSpec)
  /-- The command line is not carried out. -/
  | refused (reason : Refusal)
deriving Repr

/-- Reads an option without a value. -/
def Demand.ofFlag (spec : OptionSpec) : Demand :=
  match request? spec with
  | some request => .refused request
  | .none => .met spec ""

/-- Reads a long option without its hyphens. -/
def ofLong (specs : List OptionSpec) (text : List Char) : Demand :=
  let (name, value) := cutValue text
  match specs.find? (fun spec => spec.long == String.ofList name) with
  | .none => .refused .wrong
  | some spec =>
    match spec.value, value with
    | .nothing, .none => .ofFlag spec
    | .nothing, some _ => .refused .wrong
    | _, .none => .next spec
    | _, some v => .met spec (String.ofList v)

/-- Reads options that are written as letters behind one hyphen.  What follows a
letter that wants a value is its value, maybe behind an equals sign. -/
def ofLetters (specs : List OptionSpec) : List Char → List Demand
  | [] => []
  | c :: cs =>
    match specs.find? (fun spec => spec.short == some c) with
    | .none => [.refused .wrong]
    | some spec =>
      match spec.value, cs with
      | .nothing, cs => .ofFlag spec :: ofLetters specs cs
      | _, [] => [.next spec]
      | _, '=' :: value => [.met spec (String.ofList value)]
      | _, value => [.met spec (String.ofList value)]

/-- The options of an argument, or `none` if it is a word. -/
def demands? (specs : List OptionSpec) (argument : String) : Option (List Demand) :=
  match argument.toList with
  | '-' :: '-' :: text => some [ofLong specs text]
  | '-' :: c :: cs => some (ofLetters specs (c :: cs))
  | _ => .none

/-- Adds options one after the other.  The last one may still want its value. -/
def addDemands (a : Arguments) : List Demand → Except Refusal (Arguments × Option OptionSpec)
  | [] => .ok (a, .none)
  | .met spec value :: demands => do
    let a ← a.addOption spec value
    addDemands a demands
  | .next spec :: _ => .ok (a, some spec)
  | .refused reason :: _ => .error reason

/-! ## Scanning -/

/-- Adds a word, and gives what is still wanted. -/
def addWord (a : Arguments) (word : String) : Operands → Except Refusal (Arguments × Operands)
  | .words (kind :: kinds) =>
    if kind.admits word then .ok ({ a with words := a.words ++ [word] }, .words kinds)
    else .error .wrong
  | _ => .error .wrong

/-- Adds the words at the end of a command line, which have to be all that is
wanted. -/
def addWords (a : Arguments) (wanted : Operands) : List String → Except Refusal Arguments
  | [] => if wanted = .words [] then .ok a else .error .wrong
  | word :: words => do
    let (a, wanted) ← a.addWord word wanted
    addWords a wanted words

/-- Sorts the arguments of a command from the first to the last; the first fault
or request counts.  Behind a double hyphen all are words.  The arguments behind
the name of a command of its own are left for that command. -/
def scan (specs : List OptionSpec) (wanted : Operands) (a : Arguments) :
    List String → Except Refusal Arguments
  | [] => a.addWords wanted []
  | "--" :: arguments => a.addWords wanted arguments
  | argument :: arguments =>
    match demands? specs argument, wanted with
    | .none, .commands names =>
      if names.contains argument then .ok { a with words := [argument], rest := arguments }
      else .error .wrong
    | .none, wanted => do
      let (a, wanted) ← a.addWord argument wanted
      scan specs wanted a arguments
    | some demands, wanted => do
      match ← a.addDemands demands, arguments with
      | (a, .none), arguments => scan specs wanted a arguments
      | (a, some spec), value :: arguments =>
        if isValue value then do
          let a ← a.addOption spec value
          scan specs wanted a arguments
        else .error .wrong
      | (_, some _), [] => .error .wrong

end Arguments

end DesignTokens
