/-!
# Options

The words of a command line give values to options.  An option has a name after two dashes and may
have a letter after one dash; its value follows after an equals sign, in the next word, or, after a
letter, at once.  A switch has no value and is on if its name is there.  No option may be given
twice.

`OptionTable.read` reads words up to the first that is no option.  `addVariables` then takes the values
of options that are not given from the environment.
-/

namespace RowSieve

/-- Why there is nothing to be done for a command line. -/
inductive Stop where
  /-- The command line is wrong. -/
  | mistake
  /-- Help is asked for. -/
  | help
  /-- The version is asked for. -/
  | version
deriving DecidableEq, Repr

/-- An option. -/
structure OptionRule where
  /-- Its name, after two dashes. -/
  name : String
  /-- Its letter, after one dash. -/
  letter : Option Char
  /-- The variable of the environment that stands in for it. -/
  envName : String
  /-- It is a switch and has no value. -/
  isSwitch : Bool
  /-- The values that it may have. -/
  accepts : String → Bool

/-- An option with a value. -/
def OptionRule.value (name : String) (letter : Option Char) (envName : String)
    (accepts : String → Bool) : OptionRule :=
  ⟨name, letter, envName, false, accepts⟩

/-- A switch.  As a variable it is `true` or `false`. -/
def OptionRule.switch (name envName : String) : OptionRule :=
  ⟨name, none, envName, true, fun v => v = "true" || v = "false"⟩

/-- Values of options, under their names. -/
abbrev Given := List (String × String)

namespace Given

/-- The option has a value. -/
def has (given : Given) (name : String) : Bool := (given.lookup name).isSome

/-- A switch is on. -/
def isOn (given : Given) (name : String) : Bool := given.lookup name = some "true"

/-- Gives an option its value, which must be its first. -/
def add (given : Given) (rule : OptionRule) (value : String) : Except Stop Given :=
  if given.has rule.name || !rule.accepts value then .error .mistake
  else .ok ((rule.name, value) :: given)

end Given

/-- The word looks like an option.  A single dash does not. -/
def looksLikeOption : List Char → Bool
  | '-' :: _ :: _ => true
  | _ => false

/-- The text before the first equals sign, and the text after it if there is one. -/
def splitEquals (cs : List Char) : String × Option String :=
  (String.ofList (cs.takeWhile (· ≠ '=')),
    match cs.dropWhile (· ≠ '=') with
    | '=' :: value => some (String.ofList value)
    | _ => none)

/-- The next word, if it can be a value. -/
def nextValue? : List String → Option (String × List String)
  | [] => none
  | word :: words => if looksLikeOption word.toList then none else some (word, words)

/-- What is at hand while options are read. -/
structure OptionTable where
  /-- The options. -/
  rules : List OptionRule
  /-- The version may be asked for. -/
  hasVersion : Bool

/-- Reads an option by its name, without the two dashes. -/
def OptionTable.readName (table : OptionTable) (given : Given) (cs : List Char)
    (words : List String) : Except Stop (Given × List String) :=
  let (name, attached) := splitEquals cs
  match table.rules.find? fun rule => rule.name = name, attached with
  | some rule, some value =>
    if rule.isSwitch then .error .mistake else (given.add rule value).map (·, words)
  | some rule, none =>
    if rule.isSwitch then (given.add rule "true").map (·, words)
    else match nextValue? words with
      | none => .error .mistake
      | some (value, words) => (given.add rule value).map (·, words)
  | none, some _ => .error .mistake
  | none, none =>
    if name = "help" then .error .help
    else if name = "version" && table.hasVersion then .error .version
    else .error .mistake

/-- Reads an option by its letter, without the dash. -/
def OptionTable.readLetter (table : OptionTable) (given : Given) (letter : Char)
    (attached : List Char) (words : List String) : Except Stop (Given × List String) :=
  match table.rules.find? fun rule => rule.letter = some letter with
  | some rule =>
    match attached with
    | [] =>
      match nextValue? words with
      | none => .error .mistake
      | some (value, words) => (given.add rule value).map (·, words)
    | '=' :: value => (given.add rule (String.ofList value)).map (·, words)
    | value => (given.add rule (String.ofList value)).map (·, words)
  | none =>
    if letter = 'h' then .error .help
    else if letter = 'V' && table.hasVersion then .error .version
    else .error .mistake

/-- Reads options, up to a word that is none.  Two dashes alone end the options, and no word may
follow them. -/
def OptionTable.readWithin (table : OptionTable) : (bound : Nat) → Given → List String →
    Except Stop (Given × List String)
  | 0, given, words => .ok (given, words)
  | _ + 1, given, [] => .ok (given, [])
  | bound + 1, given, word :: words =>
    match word.toList with
    | ['-', '-'] => if words.isEmpty then .ok (given, []) else .error .mistake
    | '-' :: '-' :: cs =>
      match table.readName given cs words with
      | .error e => .error e
      | .ok (given, words) => table.readWithin bound given words
    | '-' :: letter :: cs =>
      match table.readLetter given letter cs words with
      | .error e => .error e
      | .ok (given, words) => table.readWithin bound given words
    | _ => .ok (given, word :: words)

/-- Reads options, up to a word that is none. -/
def OptionTable.read (table : OptionTable) (words : List String) :
    Except Stop (Given × List String) :=
  table.readWithin words.length [] words

/-- Values from the environment for options that are not given. -/
def addVariables (environment : String → Option String) : List OptionRule → Given →
    Except Stop Given
  | [], given => .ok given
  | rule :: rules, given =>
    if given.has rule.name then addVariables environment rules given
    else match environment rule.envName with
      | none => addVariables environment rules given
      | some value =>
        match given.add rule value with
        | .error e => .error e
        | .ok given => addVariables environment rules given

end RowSieve
