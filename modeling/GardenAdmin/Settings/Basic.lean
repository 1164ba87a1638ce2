import GardenAdmin.Wire.Layout

/-!
# Settings

The settings of the program and the address of the event stream that follows from them.
-/

namespace GardenAdmin

open Json Wire

/-- How the garden API is reached. -/
structure ApiSettings where
  baseUrl : String := "http://localhost:2337"
  /-- Sent with every request and to the event stream. -/
  token : Option String := none
  timeoutSeconds : Nat := 30
  deriving DecidableEq, Repr

namespace ApiSettings

def layout : Layout ApiSettings where
  blank := {}
  fields := [
    .plain "base_url" baseUrl (fun v s => { s with baseUrl := v }) .string Decoder.string,
    .nullable "token" token (fun v s => { s with token := v }) .string Decoder.string,
    .plain "request_timeout_secs" timeoutSeconds (fun v s => { s with timeoutSeconds := v })
      (fun n => .number (.int n)) Decoder.nat64]

def toValue : ApiSettings → Value := layout.toValue

def decoder : Decoder ApiSettings := layout.decoder

/-- The token, unless it is empty. -/
def activeToken? (s : ApiSettings) : Option String := s.token.filter (· ≠ "")

end ApiSettings

/-- Where the event stream is served. -/
structure EventSettings where
  path : String := "/api/v1/socket/events/"
  deriving DecidableEq, Repr

namespace EventSettings

def layout : Layout EventSettings where
  blank := {}
  fields := [.plain "path" path (fun v s => { s with path := v }) .string Decoder.string]

def toValue : EventSettings → Value := layout.toValue

def decoder : Decoder EventSettings := layout.decoder

end EventSettings

structure LogSettings where
  json : Bool := false
  deriving DecidableEq, Repr

namespace LogSettings

def layout : Layout LogSettings where
  blank := {}
  fields := [.plain "json" json (fun v s => { s with json := v }) .bool Decoder.bool]

def toValue : LogSettings → Value := layout.toValue

def decoder : Decoder LogSettings := layout.decoder

end LogSettings

structure Settings where
  api : ApiSettings := {}
  events : EventSettings := {}
  log : LogSettings := {}
  deriving DecidableEq, Repr

namespace Settings

def layout : Layout Settings where
  blank := {}
  fields := [
    .plain "api" api (fun v s => { s with api := v }) ApiSettings.toValue ApiSettings.decoder,
    .plain "events" events (fun v s => { s with events := v })
      EventSettings.toValue EventSettings.decoder,
    .plain "log" log (fun v s => { s with log := v }) LogSettings.toValue LogSettings.decoder]

def toValue : Settings → Value := layout.toValue

def decoder : Decoder Settings := layout.decoder

end Settings

/-- Why the settings cannot be used. -/
inductive SettingsError where
  | unreadableFile (path : String)
  | unparsableFile (path : String)
  /-- The base URL is neither `http` nor `https`. -/
  | unknownScheme (baseUrl : String)
  deriving DecidableEq, Repr

def SettingsError.message : SettingsError → String
  | .unreadableFile path => "Configuration error: Failed to read config file " ++ path
  | .unparsableFile path => "Configuration error: Failed to parse config file " ++ path
  | .unknownScheme baseUrl =>
    "Configuration error: API base URL must start with http:// or https://: " ++ baseUrl

/-- A URL without the slashes at its end. -/
def trimSlashes (url : String) : String :=
  .ofList (url.toList.reverse.dropWhile (· == '/')).reverse

/-- What follows `front` in a text that starts with it. -/
def after? (front s : String) : Option String :=
  if front.toList.isPrefixOf s.toList then some (.ofList (s.toList.drop front.length)) else none

/-- The websocket address of an HTTP address. -/
def websocketBase? (url : String) : Option String :=
  match after? "https://" url with
  | some rest => some ("wss://" ++ rest)
  | none => (after? "http://" url).map ("ws://" ++ ·)

/-- The address of the event stream; it carries the token in its query. -/
def Settings.eventsUrl (s : Settings) : Except SettingsError String :=
  match websocketBase? (trimSlashes s.api.baseUrl) with
  | none => .error (.unknownScheme s.api.baseUrl)
  | some base =>
    .ok (base ++ s.events.path ++ s.api.activeToken?.elim "" ("?token=" ++ ·))

/-- A URL without its query, which may hold the token. -/
def redactUrl (url : String) : String := .ofList (url.toList.takeWhile (· ≠ '?'))

end GardenAdmin
