import GardenAdmin.Feedback.ConfigErrors
import GardenAdmin.Garden.Record

/-!
# Validation

The rules of the server for connection parameters, checked on this side. Every broken rule of every
entry point is reported; parameters that keep the rules come back with the HTTP defaults filled in.
-/

namespace GardenAdmin

/-- The name of the HTTP entry point. -/
def httpEntryPoint : String := "http"

/-- The name of the STOMP entry point. -/
def stompEntryPoint : String := "stomp"

def missingData : String := "Missing data for required field."

def portOutOfRange : String := "Value out of range for ports"

/-- Both bounds are excluded. -/
def isPort (n : Int) : Bool := 0 < n && n < 65535

/-- Field and message for every broken rule about a port. -/
def portFaults : Option Int → List (String × String)
  | none => [("port", missingData)]
  | some n => if isPort n then [] else [("port", portOutOfRange)]

def hostFaults (host : Option String) : List (String × String) :=
  if host.isNone then [("host", missingData)] else []

/-- Field and message for every broken rule. -/
def HttpParams.faults (h : HttpParams) : List (String × String) :=
  hostFaults h.host ++ portFaults h.port

def StompSsl.faults : Option StompSsl → List (String × String)
  | none => [("ssl", missingData)]
  | some s => if s.useSsl.isNone then [("ssl.use_ssl", missingData)] else []

/-- Field and message for every broken rule. -/
def Stomp.faults {η : Type} (s : Stomp η) : List (String × String) :=
  hostFaults s.host ++ portFaults s.port ++ StompSsl.faults s.ssl

/-- The faults as errors of an entry point. -/
def ConfigErrors.ofFaults (entryPoint : String) (faults : List (String × String)) : ConfigErrors :=
  .ofComplaints (faults.map fun (field, message) => ⟨entryPoint, field, message⟩)

/-- The parameters with the defaults of the absent fields that have one. -/
def HttpParams.withDefaults (h : HttpParams) : HttpParams :=
  { h with
    urlPrefix := h.urlPrefix <|> some "/"
    caVerify := h.caVerify <|> some false
    ssl := h.ssl <|> some false }

def HttpParams.validate (h : HttpParams) : Except ConfigErrors HttpParams :=
  if h.faults.isEmpty then .ok h.withDefaults else .error (.ofFaults httpEntryPoint h.faults)

def StompParams.validate (s : StompParams) : Except ConfigErrors StompParams :=
  if s.faults.isEmpty then .ok s else .error (.ofFaults stompEntryPoint s.faults)

/-- The errors of a block that is there and breaks rules. -/
def blockErrors {β : Type} (validate : β → Except ConfigErrors β) (block : Option β) :
    ConfigErrors :=
  match block.map validate with
  | some (.error e) => e
  | _ => .empty

/-- What a block that keeps the rules becomes. -/
def blockResult {β : Type} (validate : β → Except ConfigErrors β) (block : Option β) : Option β :=
  block.bind fun b => (validate b).toOption

/-- Checks every entry point that is there; the errors of both are reported together. -/
def ConnectionParams.validate (p : ConnectionParams) : Except ConfigErrors ConnectionParams :=
  let errors := (blockErrors HttpParams.validate p.http).merge
    (blockErrors StompParams.validate p.stomp)
  if errors.isEmpty then
    .ok ⟨blockResult HttpParams.validate p.http, blockResult StompParams.validate p.stomp⟩
  else .error errors

end GardenAdmin
