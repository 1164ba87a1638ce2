import GardenAdmin.Settings.Basic
import GardenAdmin.Text.Integer

/-!
# Layers of settings

Settings come in layers: defaults, the global file, a named file, the environment and the command
line. A layer sets some fields and leaves the others to the layers below. A file that is there must
decode; only the global one may be missing.
-/

namespace GardenAdmin

open Json Wire

/-- A layer: the fields it sets. -/
structure SettingsLayer where
  baseUrl : Option String := none
  token : Option String := none
  timeoutSeconds : Option Nat := none
  eventsPath : Option String := none
  logJson : Option Bool := none
  deriving DecidableEq, Repr

namespace SettingsLayer

/-- The settings with the fields of the layer on top. -/
def onto (l : SettingsLayer) (s : Settings) : Settings where
  api := {
    baseUrl := l.baseUrl.getD s.api.baseUrl
    token := l.token <|> s.api.token
    timeoutSeconds := l.timeoutSeconds.getD s.api.timeoutSeconds }
  events := { path := l.eventsPath.getD s.events.path }
  log := { json := l.logJson.getD s.log.json }

/-! ## Files -/

/-- The `api` block of a file. -/
def apiLayout : Layout SettingsLayer where
  blank := {}
  fields := [
    textField "base_url" baseUrl fun v l => { l with baseUrl := v },
    textField "token" token fun v l => { l with token := v },
    .optional "request_timeout_secs" timeoutSeconds (fun v l => { l with timeoutSeconds := v })
      (fun n => .number (.int n)) Decoder.nat64]
where
  textField (name : String) (get : SettingsLayer → Option String)
      (set : Option String → SettingsLayer → SettingsLayer) : FieldLayout SettingsLayer :=
    .optional name get set .string Decoder.string

/-- The `events` block of a file. -/
def eventsLayout : Layout SettingsLayer where
  blank := {}
  fields := [.optional "path" eventsPath (fun v l => { l with eventsPath := v })
    .string Decoder.string]

/-- The `log` block of a file. -/
def logLayout : Layout SettingsLayer where
  blank := {}
  fields := [.optional "json" logJson (fun v l => { l with logJson := v }) .bool Decoder.bool]

/-- A block of a file, of which `copy` takes over the fields. -/
def block (name : String) (blockLayout : Layout SettingsLayer)
    (copy : SettingsLayer → SettingsLayer → SettingsLayer) : FieldLayout SettingsLayer where
  name
  aliases := []
  required := false
  write l := some (blockLayout.toValue l)
  read room d := copy <$> blockLayout.decoder room d

/-- A settings file. A key that is missing or `null` sets nothing. -/
def fileLayout : Layout SettingsLayer where
  blank := {}
  fields := [
    block "api" apiLayout fun b l =>
      { l with baseUrl := b.baseUrl, token := b.token, timeoutSeconds := b.timeoutSeconds },
    block "events" eventsLayout fun b l => { l with eventsPath := b.eventsPath },
    block "log" logLayout fun b l => { l with logJson := b.logJson }]

def decoder : Decoder SettingsLayer := fileLayout.decoder

end SettingsLayer

/-! ## Environment and files -/

/-- The variables of the environment. -/
abbrev Environment := String → Option String

/-- What is found under a path. -/
inductive FileContent where
  | missing
  /-- It is there and holds no readable text. -/
  | unreadable
  | text (content : String)
  deriving DecidableEq, Repr

/-- The files that can be read. -/
abbrev Files := String → FileContent

/-- The texts of a switch that mean yes. -/
def isYes (s : String) : Bool := s == "1" || s == "true" || s == "yes"

/-- The layer of the environment. A timeout that is no number sets nothing. -/
def Environment.layer (env : Environment) : SettingsLayer where
  baseUrl := env "TRELLIS_URL"
  token := env "TRELLIS_TOKEN"
  timeoutSeconds := env "TRELLIS_TIMEOUT_SECS" >>= Text.nat64?
  logJson := (env "TRELLIS_LOG_JSON").map isYes

/-- A path below a directory. An absolute path stays as it is. -/
def joinPath (directory path : String) : String :=
  if path.startsWith "/" then path
  else if directory = "" || directory.endsWith "/" then directory ++ path
  else directory ++ "/" ++ path

/-- The path of the global settings file. -/
def globalSettingsPath? (env : Environment) : Option String :=
  (env "XDG_CONFIG_HOME" <|> (env "HOME").map (joinPath · ".config")).map
    fun directory => joinPath (joinPath directory "trellis") "settings.json"

/-- The layer of a file that has to be there. -/
def SettingsLayer.ofFile (files : Files) (path : String) : Except SettingsError SettingsLayer :=
  match files path with
  | .text content =>
    match Decoder.text decoder content with
    | .ok layer => .ok layer
    | .error _ => .error (.unparsableFile path)
  | _ => .error (.unreadableFile path)

/-- The layer of the global file, which sets nothing if it is missing. -/
def globalLayer (files : Files) (env : Environment) : Except SettingsError SettingsLayer :=
  match globalSettingsPath? env with
  | none => .ok {}
  | some path => if files path = .missing then .ok {} else SettingsLayer.ofFile files path

/-- The layer of the named file, if one is named. -/
def explicitLayer (files : Files) (path : Option String) : Except SettingsError SettingsLayer :=
  path.elim (.ok {}) (SettingsLayer.ofFile files)

/-- The settings of all layers but the command line. -/
def Settings.load (files : Files) (env : Environment) (path : Option String) :
    Except SettingsError Settings := do
  let global ← globalLayer files env
  let explicit ← explicitLayer files path
  return env.layer.onto (explicit.onto (global.onto {}))

end GardenAdmin
