/-!
# Options on a command line

A command line is a list of words. A word that begins with a dash is an option, or several options
of one letter after one dash; every other word stands for itself. An option may take a value, which
follows it in the same word or is the next word, whatever that looks like. After the word `--` no
word is an option.

`scan` tells options and plain words apart, and keeps both in order.

Mirroring notes:
- The rules are those of the library that reads the command line. `mixed` says whether options may
  stand after plain words: among the words of a command they may, before its name they may not.
-/

namespace Walkthrough.CommandLine

/-- What is wrong with a command line. -/
inductive UsageError where
  | noSuchOption (name : String)
  | missingValue (name : String)
  | needlessValue (name : String)
  | noCommand
  | noSuchCommand (name : String)
  | missingTarget
  | extraWord (word : String)
  | notANumber (name text : String)
  | noSuchEngine (text : String)
  deriving DecidableEq, Repr

/-- The wording of a `UsageError`. -/
def UsageError.message : UsageError → String
  | noSuchOption name => "No such option: " ++ name
  | missingValue name => "Option " ++ name ++ " requires a value."
  | needlessValue name => "Option " ++ name ++ " does not take a value."
  | noCommand => "Missing command."
  | noSuchCommand name => "No such command: " ++ name
  | missingTarget => "Missing target."
  | extraWord word => "Unexpected word: " ++ word
  | notANumber name text => "Option " ++ name ++ " takes a number, not " ++ text
  | noSuchEngine text => "No such engine: " ++ text

/-- An option: its names, each with its dashes, and whether it takes a value. -/
structure OptionSpec (Key : Type) where
  key : Key
  names : List String
  takesValue : Bool

variable {Key : Type}

/-- The option with a name. -/
def named? (specs : List (OptionSpec Key)) (name : String) : Option (OptionSpec Key) :=
  specs.find? fun o => o.names.contains name

/-- An option as it was given, with its value if it has one. -/
structure Given (Key : Type) where
  key : Key
  value : String

/-- What a word that begins with a dash gives: options, and perhaps an option, by its key and its
name, whose value is the next word. -/
abbrev OptionWord (Key : Type) : Type := List (Given Key) × Option (Key × String)

/-- Reads a word that names one option, and perhaps gives a value after an equals sign. -/
def longOption (o : OptionSpec Key) (name : String) (value : Option String) :
    Except UsageError (OptionWord Key) :=
  match o.takesValue, value with
  | true, some v => .ok ([⟨o.key, v⟩], none)
  | true, none => .ok ([], some (o.key, name))
  | false, some _ => .error (.needlessValue name)
  | false, none => .ok ([⟨o.key, ""⟩], none)

/-- Reads letters after a dash as options of one letter each; what follows the letter of an option
that takes a value is its value. -/
def shortOptions (specs : List (OptionSpec Key)) :
    List Char → Except UsageError (OptionWord Key)
  | [] => .ok ([], none)
  | c :: rest =>
    let name := String.ofList ['-', c]
    match named? specs name with
    | none => .error (.noSuchOption name)
    | some o =>
      if o.takesValue then
        if rest.isEmpty then .ok ([], some (o.key, name))
        else .ok ([⟨o.key, String.ofList rest⟩], none)
      else (shortOptions specs rest).map fun (more, next) => (⟨o.key, ""⟩ :: more, next)

/-- Whether a name is a long one: two dashes, or a dash and several letters. -/
def isLong (name : String) : Bool := 2 < name.length

/-- Reads a word that begins with a dash. -/
def optionWord (specs : List (OptionSpec Key)) (word : String) :
    Except UsageError (OptionWord Key) :=
  let cs := word.toList
  let name := String.ofList (cs.takeWhile (· ≠ '='))
  let value :=
    match cs.dropWhile (· ≠ '=') with
    | [] => none
    | _ :: v => some (String.ofList v)
  match if isLong name then named? specs name else none with
  | some o => longOption o name value
  | none =>
    match cs with
    | '-' :: '-' :: _ => .error (.noSuchOption name)
    | _ => shortOptions specs (cs.drop 1)

/-- Whether a word is an option. -/
def isOption (word : String) : Bool :=
  match word.toList with
  | '-' :: _ :: _ => true
  | _ => false

/-- The options and the plain words of a command line. -/
structure Scanned (Key : Type) where
  options : List (Given Key) := []
  words : List String := []

/-- A scan with more options in front. -/
def Scanned.withOptions (more : List (Given Key)) (s : Scanned Key) : Scanned Key :=
  { s with options := more ++ s.options }

/-- A scan with another plain word in front. -/
def Scanned.withWord (word : String) (s : Scanned Key) : Scanned Key :=
  { s with words := word :: s.words }

/-- Tells options and plain words apart, where `waiting` is an option that waits for its value.
Unless options may follow plain words (`mixed`), the first plain word ends the options. -/
def scanFrom (specs : List (OptionSpec Key)) (mixed : Bool) :
    (waiting : Option (Key × String)) → List String → Except UsageError (Scanned Key)
  | none, [] => .ok {}
  | some (_, name), [] => .error (.missingValue name)
  | some (key, _), value :: rest =>
    (scanFrom specs mixed none rest).map (Scanned.withOptions [⟨key, value⟩])
  | none, word :: rest =>
    if word == "--" then .ok { words := rest }
    else if isOption word then
      match optionWord specs word with
      | .error e => .error e
      | .ok (given, next) => (scanFrom specs mixed next rest).map (Scanned.withOptions given)
    else if mixed then (scanFrom specs mixed none rest).map (Scanned.withWord word)
    else .ok { words := word :: rest }

/-- Tells the options and the plain words of a command line apart. -/
def scan (specs : List (OptionSpec Key)) (mixed : Bool) (words : List String) :
    Except UsageError (Scanned Key) :=
  scanFrom specs mixed none words

/-- The value of the last option with a key. -/
def Scanned.last? [BEq Key] (s : Scanned Key) (key : Key) : Option String :=
  (s.options.reverse.find? fun g => g.key == key).map Given.value

end Walkthrough.CommandLine
