import Walkthrough.CommandLine.Options
import Walkthrough.Form.Field
import Walkthrough.Text.Digit

/-!
# What a command line asks for

There are two commands: `version` prints the version, and `run` runs the flow at a target with
settings that its options may override. An option that is given several times counts as it was
given last.

Mirroring notes:
- The two commands are `version` and `run`, with their options, and `overrides` is what `run` makes
  of them.
-/

namespace Walkthrough.CommandLine

/-- The version of the program. -/
def version : String := "0.1.0"

/-- What running a flow is asked with. -/
structure RunRequest where
  target : String
  /-- The path of the settings file. -/
  config : Option String := none
  /-- The path of the file of variables. -/
  envFile : Option String := none
  headless : Option Bool := none
  engine : Option BrowserEngine := none
  /-- Numbers of seconds. -/
  wait : Option SettingsDocument := none
  interval : Option SettingsDocument := none

/-- What a command line asks for. -/
inductive Invocation where
  | version
  | run (request : RunRequest)

/-- The paths of the files that have to be read for a command. -/
def Invocation.paths : Invocation → List String
  | version => []
  | run r => r.config.toList ++ r.envFile.toList

/-- The settings that a request overrides. -/
def RunRequest.overrides (r : RunRequest) : Document.Entries Extra :=
  let browser : Document.Entries Extra :=
    (r.headless.map fun b => ("headless", .bool b)).toList ++
      (r.engine.map fun e => ("engine", .text e.name)).toList
  (if browser.isEmpty then [] else [("browser", .map browser)]) ++
    (r.wait.map fun d => ("wait", d)).toList ++
    (r.interval.map fun d => ("interval", d)).toList

/-! ## Numbers -/

/-- Characters without the underscores that stand between digits; there is no other underscore. -/
def joinDigits? (afterDigit : Bool) : List Char → Option (List Char)
  | [] => some []
  | c :: rest =>
    if c = '_' then
      if afterDigit && (rest.head?.any Number.isPlainDigit) then joinDigits? false rest else none
    else (joinDigits? (Number.isPlainDigit c) rest).map (c :: ·)

/-- A character, or the plain digit that a digit of another script stands for. -/
def plainDigit (c : Char) : Char :=
  match Text.digitValue? c with
  | some d => Char.ofNat ('0'.toNat + d)
  | none => c

/-- The words for numbers that are not finite. -/
def endlessWords : List String := ["inf", "infinity", "nan"]

/-- The number that a text stands for. -/
def number? (s : String) : Option SettingsDocument :=
  let cs := (Text.stripChars s.toList).map plainDigit
  let word := String.ofList ((Number.splitSign cs).2.map Char.toLower)
  if endlessWords.contains word then some (.atom .notFinite)
  else
    ((joinDigits? false cs).bind Number.readDecimal?).map fun r => .real (Field.precision.round r)

/-! ## Commands -/

/-- The options in front of a command. -/
inductive MainOption where
  | verbose
  deriving DecidableEq

/-- The options of the command that runs a flow. -/
inductive RunOption where
  | config
  | envFile
  | headless
  | headed
  | engine
  | wait
  | interval
  deriving DecidableEq

/-- The names of the options in front of a command. -/
def mainOptions : List (OptionSpec MainOption) := [⟨.verbose, ["--verbose", "-v"], false⟩]

/-- The names of the options of the command that runs a flow. -/
def runOptions : List (OptionSpec RunOption) :=
  [⟨.config, ["--config", "-c"], true⟩, ⟨.envFile, ["--env-file"], true⟩,
    ⟨.headless, ["--headless"], false⟩, ⟨.headed, ["--headed"], false⟩,
    ⟨.engine, ["--engine"], true⟩, ⟨.wait, ["--wait"], true⟩, ⟨.interval, ["--interval"], true⟩]

/-- Whether the browser is to be headless, as it was said last. -/
def headless? (s : Scanned RunOption) : Option Bool :=
  (s.options.reverse.find? fun g => g.key == .headless || g.key == .headed).map
    fun g => g.key == .headless

/-- The number that an option was given with. -/
def numberOption (s : Scanned RunOption) (key : RunOption) (name : String) :
    Except UsageError (Option SettingsDocument) :=
  match s.last? key with
  | none => .ok none
  | some text =>
    match number? text with
    | some d => .ok (some d)
    | none => .error (.notANumber name text)

/-- The engine that was asked for. -/
def engineOption (s : Scanned RunOption) : Except UsageError (Option BrowserEngine) :=
  match s.last? .engine with
  | none => .ok none
  | some text =>
    match BrowserEngine.ofName? text with
    | some e => .ok (some e)
    | none => .error (.noSuchEngine text)

/-- What the words after `run` ask for. -/
def runRequest (words : List String) : Except UsageError RunRequest := do
  let s ← scan runOptions true words
  let target ←
    match s.words with
    | [] => .error .missingTarget
    | [target] => .ok target
    | _ :: word :: _ => .error (.extraWord word)
  return {
    target
    config := s.last? .config
    envFile := s.last? .envFile
    headless := headless? s
    engine := ← engineOption s
    wait := ← numberOption s .wait "--wait"
    interval := ← numberOption s .interval "--interval" }

/-- What a command line asks for. -/
def invocation (words : List String) : Except UsageError Invocation := do
  let s ← scan mainOptions false words
  match s.words with
  | [] => .error .noCommand
  | "version" :: words =>
    let s ← scan ([] : List (OptionSpec MainOption)) true words
    match s.words with
    | [] => .ok .version
    | word :: _ => .error (.extraWord word)
  | "run" :: words => (runRequest words).map .run
  | word :: _ => .error (.noSuchCommand word)

end Walkthrough.CommandLine
