import GardenAdmin.Garden.Validation

/-!
# Repair

`Garden.repair` makes the connection parameters of a record pass validation and notes every change.
A local garden loses its parameters; an HTTP garden always ends up with usable HTTP parameters; a
garden of another type without usable STOMP parameters becomes an HTTP garden; any other block that
breaks the rules is dropped.
-/

namespace GardenAdmin

/-- What was done to a record. -/
inductive Repair where
  /-- The HTTP parameters were replaced by the defaults. -/
  | usedAllDefaults
  /-- Absent HTTP parameters were filled in. -/
  | usedSomeDefaults
  | droppedStomp
  | droppedHttp
  /-- A local garden lost its parameters. -/
  | clearedLocal
  | forcedHttp
  deriving DecidableEq, Repr

/-- The note about a repair to the garden of that name. -/
def Repair.note (garden : String) : Repair → String
  | .usedAllDefaults => "Used defaults for all values of http connection params for garden " ++ garden
  | .usedSomeDefaults =>
    "Used defaults for some values of http connection params for garden " ++ garden
  | .droppedStomp => "Removed unparseable stomp connection params from garden " ++ garden
  | .droppedHttp => "Removed unparseable http connection params from garden " ++ garden
  | .clearedLocal => "Removed connection params for local garden " ++ garden
  | .forcedHttp => "Forcing connection type to HTTP for garden " ++ garden

structure Repaired where
  garden : Garden
  repairs : List Repair
  deriving DecidableEq, Repr

/-- The notes on every repair, in the order they were made. -/
def Repaired.notes (r : Repaired) : List String := r.repairs.map (·.note r.garden.name)

namespace HttpParams

/-- The parameters of a garden that has none usable. -/
def defaults : HttpParams where
  host := some "child_hostname"
  port := some 2337
  urlPrefix := some "/"
  caVerify := some false
  ssl := some false

/-- The parameters with a default for every absent field that has one. -/
def overDefaults (h : HttpParams) : HttpParams where
  host := h.host <|> defaults.host
  port := h.port <|> defaults.port
  urlPrefix := h.urlPrefix <|> defaults.urlPrefix
  caCert := h.caCert <|> defaults.caCert
  caVerify := h.caVerify <|> defaults.caVerify
  ssl := h.ssl <|> defaults.ssl
  clientCert := h.clientCert <|> defaults.clientCert
  clientKey := h.clientKey

/-- Usable parameters in any case: the given ones, filled up if need be, or the defaults. -/
def repair : Option HttpParams → HttpParams × List Repair
  | none => (defaults, [.usedAllDefaults])
  | some h =>
    match h.validate with
    | .ok valid => (valid, [])
    | .error _ =>
      match h.overDefaults.validate with
      | .ok valid => (valid, [.usedSomeDefaults])
      | .error _ => (defaults, [.usedAllDefaults])

end HttpParams

/-- A block if it keeps the rules; `repair` is what dropping it counts as. -/
def keepValid {β : Type} (validate : β → Except ConfigErrors β) (repair : Repair) :
    Option β → Option β × List Repair
  | none => (none, [])
  | some b =>
    match validate b with
    | .ok valid => (some valid, [])
    | .error _ => (none, [repair])

/-- The record with connection parameters that pass validation. -/
def Garden.repair (g : Garden) : Repaired :=
  let params := g.connectionParams.getD {}
  if g.connectionType = some .local then
    ⟨{ g with connectionParams := none }, if params.isEmpty then [] else [.clearedLocal]⟩
  else
    let (stomp, stompRepairs) := keepValid StompParams.validate .droppedStomp params.stomp
    if g.connectionType = some .http then
      let (http, httpRepairs) := HttpParams.repair params.http
      ⟨{ g with connectionParams := some ⟨some http, stomp⟩ }, stompRepairs ++ httpRepairs⟩
    else if stomp.isNone then
      let (http, httpRepairs) := HttpParams.repair params.http
      ⟨{ g with connectionType := some .http, connectionParams := some ⟨some http, none⟩ },
        stompRepairs ++ .forcedHttp :: httpRepairs⟩
    else
      let (http, httpRepairs) := keepValid HttpParams.validate .droppedHttp params.http
      ⟨{ g with connectionParams := some ⟨http, stomp⟩ }, stompRepairs ++ httpRepairs⟩

end GardenAdmin
