import GardenAdmin.Command.Arguments
import GardenAdmin.Command.Run
import GardenAdmin.Settings.LogFilter

/-!
# The program

From a command line and an environment to an exit status. Options that every command takes may stand
on both sides of the command; behind it they count more, and the environment counts less than either.
The program logs that it starts once it has its settings.
-/

namespace GardenAdmin

/-- The options every command takes. -/
structure SharedOptions where
  config : Option String := none
  url : Option String := none
  token : Option String := none
  logJson : Bool := false
  deriving DecidableEq, Repr

namespace SharedOptions

def options : List (NamedOption SharedOptions) := [
  ⟨"config", .value false (readPath fun v o => { o with config := some v })⟩,
  ⟨"url", .value false (readText fun v o => { o with url := some v })⟩,
  ⟨"token", .value false (readText fun v o => { o with token := some v })⟩,
  ⟨"log-json", .flag fun o => { o with logJson := true }⟩]

/-- The options of both, those of `a` where both have one. -/
def orElse (a b : SharedOptions) : SharedOptions where
  config := a.config <|> b.config
  url := a.url <|> b.url
  token := a.token <|> b.token
  logJson := a.logJson || b.logJson

/-- The options that the environment stands in for. -/
def ofEnvironment (env : Environment) : SharedOptions where
  config := env "TRELLIS_CONFIG"
  url := env "TRELLIS_URL"
  token := env "TRELLIS_TOKEN"

/-- The layer of settings the options make. -/
def layer (o : SharedOptions) : SettingsLayer where
  baseUrl := o.url
  token := o.token
  logJson := if o.logJson then some true else none

end SharedOptions

/-- A command line in its environment. -/
structure Invocation where
  options : SharedOptions
  command : Command
  deriving DecidableEq, Repr

namespace Invocation

/-- Reads a command line. An empty path in the environment is refused on each side of the command
that does not give the option itself. -/
def read (env : Environment) (words : List String) : Except UsageError Invocation := do
  let (front, back, command) ← readCommandLine SharedOptions.options true {} words
  if env "TRELLIS_CONFIG" = some "" ∧ ¬(front.config.isSome ∧ back.config.isSome) then
    throw .malformed
  return ⟨back.orElse (front.orElse (.ofEnvironment env)), command⟩

/-- The settings of all layers. -/
def settings (i : Invocation) (files : Files) (env : Environment) :
    Except SettingsError Settings := do
  return i.options.layer.onto (← Settings.load files env i.options.config)

end Invocation

namespace Program

/-- The name of the program, which its log lines go under. -/
def name : String := "trellis"

def version : String := "0.1.0-alpha.1"

/-- How the start of the program is logged. -/
inductive StartLine where
  | none
  | text
  | json
  deriving DecidableEq, Repr

def StartLine.name : StartLine → String
  | .none => "none"
  | .text => "text"
  | .json => "json"

/-- What the filter applies to: that of the environment, or the one that lets the program's own lines
through. -/
def logFilter? (env : Environment) : Option LogFilter :=
  (env "RUST_LOG").elim (some [{ target := name, level := .info }]) LogFilter.ofString?

/-- The line about the start, as a filter sees it. -/
def startLogLine : LogLine := ⟨name, ["message", "version"], .info⟩

def startLine (s : Settings) (f : LogFilter) : StartLine :=
  if f.admits startLogLine then if s.log.json then .json else .text else .none

/-- What a run comes to. -/
structure Result where
  exit : Nat
  output : String
  startLine : StartLine
  /-- Why the command failed. -/
  failure : Option CommandError := none
  deriving DecidableEq, Repr

/-- How the program is used. -/
def usage : String :=
  "Usage: " ++ name ++ " [OPTIONS] <COMMAND>\n\nCommands:\n" ++
    String.join (CommandGrammar.all.map fun c => "  " ++ c.name ++ "\n") ++ "\nOptions:\n" ++
    String.join (SharedOptions.options.map fun o => "  --" ++ o.name ++ "\n")

namespace Result

def ofUsage : UsageError → Result
  | .help => ⟨0, usage, .none, none⟩
  | .version => ⟨0, Program.name ++ " " ++ Program.version ++ "\n", .none, none⟩
  | .malformed | .refused _ => ⟨2, "", .none, none⟩

/-- There is no log filter to start with. -/
def noLogFilter : Result := ⟨101, "", .none, none⟩

def ofOutcome (line : StartLine) (o : Outcome) : Result :=
  ⟨if o.failure.isSome then 1 else 0, o.output, line, o.failure⟩

end Result

/-- A program that has its settings. -/
structure Start where
  settings : Settings
  command : Command
  line : StartLine
  deriving DecidableEq, Repr

/-- What the program starts with, or what it comes to without starting. -/
def start (files : Files) (env : Environment) (words : List String) : Except Result Start :=
  match Invocation.read env words with
  | .error e => .error (.ofUsage e)
  | .ok i =>
    match i.settings files env with
    | .error e => .error ⟨1, "", .none, some (.settings e)⟩
    | .ok settings =>
      match logFilter? env with
      | none => .error .noLogFilter
      | some f => .ok ⟨settings, i.command, startLine settings f⟩

/-- Runs the program. -/
def run (files : Files) (env : Environment) (sessions : List Session) (words : List String) :
    Exchange Result :=
  match start files env words with
  | .error result => return result
  | .ok s => do
    return .ofOutcome s.line (← s.command.run { settings := s.settings, files, sessions })

/-- The files that a command reads. -/
def commandFiles : Command → List String
  | .create file | .check file | .sanitize file => [file]
  | .configure a => a.form.toList
  | .list | .show _ | .delete _ | .sync _ | .watch _ => []

/-- The files that a run may read. -/
def filesRead (env : Environment) (words : List String) : List String :=
  (globalSettingsPath? env).toList ++
    match Invocation.read env words with
    | .ok i => i.options.config.toList ++ commandFiles i.command
    | .error _ => []

end Program

end GardenAdmin
