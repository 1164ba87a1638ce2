import GardenAdmin.Garden.Record

/-!
# Garden forms

The editable view of a garden's connection, one tab per entry point.

`Garden.toForm` fills the form from a record: empty texts are dropped and headers become rows.
`Form.toGarden?` is the record to submit: rows that lack a side and entry points left empty are
dropped, the base record supplies the rest, and without an entry point there is no record.
-/

namespace GardenAdmin

open Json Wire

structure Form where
  connectionType : Option ConnectionType := none
  http : Option HttpParams := none
  stomp : Option StompForm := none
  deriving DecidableEq, Repr

namespace Form

def layout : Layout Form where
  blank := {}
  fields := [
    .nullable "connection_type" connectionType (fun v f => { f with connectionType := v })
      ConnectionType.toValue ConnectionType.decoder,
    .optional "http" http (fun v f => { f with http := v }) HttpParams.toValue HttpParams.decoder,
    .optional "stomp" stomp (fun v f => { f with stomp := v }) StompForm.toValue StompForm.decoder]

def toValue : Form → Value := layout.toValue

def decoder : Decoder Form := layout.decoder

end Form

/-! ## From record to form -/

/-- A text unless it is empty. -/
def pruneText (s : Option String) : Option String := s.filter (· ≠ "")

def HttpParams.prune (h : HttpParams) : HttpParams :=
  { h with
    host := pruneText h.host
    urlPrefix := pruneText h.urlPrefix
    caCert := pruneText h.caCert
    clientCert := pruneText h.clientCert
    clientKey := pruneText h.clientKey }

def StompSsl.prune (s : StompSsl) : StompSsl :=
  { s with
    caCert := pruneText s.caCert
    clientCert := pruneText s.clientCert
    clientKey := pruneText s.clientKey }

def StompHeader.toRow (h : StompHeader) : HeaderRow :=
  ⟨pruneText (some h.key), pruneText (some h.value)⟩

def StompParams.toForm (s : StompParams) : StompForm where
  host := pruneText s.host
  port := s.port
  sendDestination := pruneText s.sendDestination
  subscribeDestination := pruneText s.subscribeDestination
  username := pruneText s.username
  password := pruneText s.password
  ssl := s.ssl.map (·.prune)
  headers := s.headers.map (·.toRow)

/-- The form of a record. -/
def Garden.toForm (g : Garden) : Form where
  connectionType := g.connectionType
  http := (g.connectionParams.bind (·.http)).map (·.prune)
  stomp := (g.connectionParams.bind (·.stomp)).map (·.toForm)

/-! ## From form to record -/

/-- The form names no entry point to submit. -/
inductive FormError where
  | noEntryPoint
  deriving DecidableEq, Repr

def FormError.message : FormError → String
  | .noEntryPoint => "at least one of HTTP or STOMP connection must be configured"

/-- The parameters with the complete rows as headers. -/
def StompForm.toParams (s : StompForm) : StompParams :=
  s.withHeaders (s.headers.filterMap (·.complete?))

/-- The entry points of a form that are not empty. -/
def Form.params (f : Form) : ConnectionParams where
  http := f.http.filter (!·.isEmpty)
  stomp := (f.stomp.map (·.toParams)).filter (!·.isEmpty)

/-- The record to submit for a form on top of `base`. -/
def Form.toGarden? (f : Form) (base : Garden) : Except FormError Garden :=
  if f.params.isEmpty then .error .noEntryPoint
  else .ok { base with
    connectionType := f.connectionType <|> base.connectionType
    connectionParams := some f.params }

end GardenAdmin
