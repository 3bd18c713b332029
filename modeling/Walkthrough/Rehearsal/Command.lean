import Walkthrough.CommandLine.Attendance
import Walkthrough.CommandLine.Invocation
import Walkthrough.Rehearsal.Catalogue
import Walkthrough.Rehearsal.Performance
import Walkthrough.Settings.Load
import Walkthrough.Yaml.Read

/-!
# Rehearsing commands

What the command line does in a rehearsal. Running a flow finds it in a catalogue, loads the
settings, opens a session on a page, and prints the records of the log while the flow runs. A flow
that fails is told on the console and ends the command with a status that says so; anything else
that is thrown escapes from the command. A session that was started is stopped in any case
(`Attendance.attend`).
-/

namespace Walkthrough.Rehearsal

open CommandLine (RunRequest)

/-- What a command finds around it besides the catalogue. -/
structure Surroundings where
  /-- The texts of files by their paths. -/
  files : List (String × String) := []
  environment : List (String × String) := []

/-- What came of a command. -/
structure CommandResult where
  /-- The status that the command ends with. -/
  status : Nat := 0
  /-- What is wrong with the command line. -/
  complaint : Option String := none
  /-- What escaped from the command. -/
  escaped : Option Thrown := none
  /-- The browsers that sessions were opened on. -/
  opened : List BrowserConfig := []
  world : World

namespace CommandResult

/-- The command line makes no sense. -/
def misused (complaint : String) (w : World) : CommandResult :=
  { status := 2, complaint := some complaint, world := w }

/-- Something escaped from the command. -/
def broken (opened : List BrowserConfig) (e : Thrown) (w : World) : CommandResult :=
  { status := 1, escaped := some e, opened, world := w }

end CommandResult

/-! ## Settings -/

/-- What is thrown when there is no file at a path. -/
def noFile (path : String) : Fault :=
  ⟨"FileNotFoundError", "[Errno 2] No such file or directory: " ++ Text.quote path⟩

/-- What the settings file of a request holds. -/
def Surroundings.settingsFile (s : Surroundings) : Option String → Except Fault SettingsDocument
  | none => .ok .null
  | some path =>
    match s.files.lookup path with
    | none => .error (noFile path)
    | some text => (Yaml.read text).mapError LoadError.toFault

/-- The settings of a request. -/
def Surroundings.settings (s : Surroundings) (r : RunRequest) :
    Except Fault (Settings (LiveField → Unit)) := do
  let file ← s.settingsFile r.config
  let sources : SettingsSources Unit := {
    file
    environment := s.environment
    envFile := r.envFile.map fun path => s.files.lookup path
    overrides := r.overrides
    given := fun f => if f = .failureAction then some () else none
    fresh := fun _ => () }
  sources.load.mapError LoadError.toFault

/-- Settings whose log records are printed on the console and whose failures are told there. -/
def onConsole {Sinks₀ : Type} (s : Settings Sinks₀) (w : World) : Settings Sinks × World :=
  let (channel, w) := w.openChannel [.console]
  let sinks : Sinks :=
    { logging := false, breaksOn := none, channel, failures := .told, heard := false }
  ({ wait := s.wait, interval := s.interval, disposeOnCompletion := s.disposeOnCompletion,
      browser := s.browser, sinks }, w)

/-! ## Running a flow -/

/-- Starts or stops the main session; nothing comes of it when what that hands back has to be
awaited. -/
def attend (method : String) : Code Unit := fun w =>
  if (w.page mainSession).asynchronous then (.ok (), w) else beginCall mainSession method [] w

/-- The line that ends a run that succeeded. -/
def completed : String := "Flow completed successfully."

/-- The stream of the log records that go to some sinks. -/
def logStream (sinks : Sinks) : LogStream World Listener where
  channel w := (w.channels[sinks.channel]?).getD {}
  detach l w := w.changeChannel sinks.channel fun c => c.cancel l
  channel_detach l w := by
    cases h : w.channels[sinks.channel]? <;> simp [World.changeChannel, h, Channel.cancel]

/-- What stands around the run of a flow with the main session. -/
def attendance (sinks : Sinks) : Attendance World Listener where
  start := attend "start"
  stop := attend "stop"
  stream := logStream sinks
  console := .console

/-- What comes of a command that has run a flow. -/
def CommandResult.ofAttended {α : Type} (opened : List BrowserConfig) :
    Attended α × World → CommandResult
  | (.unstarted e, w) => .broken opened e w
  | (.unstopped e, w) => .broken opened e w
  | (.ended (.ok _), w) => { opened, world := w.print completed }
  | (.ended (.error (.failure _)), w) => { status := 1, opened, world := w }
  | (.ended (.error e), w) => .broken opened e w

/-- Runs a flow with a session that is started before and stopped afterwards. -/
def runAttended (flow : RFlow Value) (settings : Settings Sinks) (w : World) : CommandResult :=
  .ofAttended [settings.browser]
    ((attendance settings.sinks).attend
      (flow.runAndRaise (H := host) (some mainSession) settings .null) w)

/-- Runs the flow that a request asks for. -/
def runRequested (s : Surroundings) (c : Catalogue) (r : RunRequest) (w : World) :
    CommandResult :=
  match c.flowAt r.target w with
  | (.error (.target .nowhere), w) => .broken [] (.fault TargetError.nowhere.toFault) w
  | (.error (.target e), w) => .misused e.message w
  | (.error (.thrown e), w) => .broken [] e w
  | (.ok flow, w) =>
    match s.settings r with
    | .error f => .broken [] (.fault f) w
    | .ok settings =>
      let (settings, w) := onConsole settings w
      runAttended flow settings w

/-- Does what a command line asks for, with these modules. -/
def command (s : Surroundings) (modules : Modules OfferPlan) (words : List String) (w : World) :
    CommandResult :=
  match Catalogue.load modules w with
  | (.error e, w) => .broken [] e w
  | (.ok c, w) =>
    match CommandLine.invocation words with
    | .error e => .misused e.message w
    | .ok .version => { world := w.print CommandLine.version }
    | .ok (.run r) => runRequested s c r w

/-- The lines that a command leaves on the error side of the console. -/
def CommandResult.errorLines (r : CommandResult) : List String :=
  r.world.toldLines ++ (r.complaint.map Console.lines).getD [] ++
    (r.escaped.map fun e => Console.lines (e.name ++ ": " ++ e.text)).getD []

/-! ## Flows without a session -/

/-- The last state and the value of a flow that is run with plain settings and without a session. -/
def runPlainly (flow : RFlow Value) (w : World) : Result × World :=
  let (settings, w) := plainSettings w
  let (r, w) := flow.run (H := host) none settings .null w
  (resultOf r, w)

/-- Runs a script without a session while its log is printed on the console. -/
def runOnConsole (script : Script) : Code State :=
  (script.make []).andThen fun made => fun w =>
    let (settings, w) := onConsole (plainSettings {}).1 w
    let (r, w) := made.toFlow.run (H := host) none settings .null w
    (.ok r.1, w)

end Walkthrough.Rehearsal
