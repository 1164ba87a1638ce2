import GardenAdmin.Garden.Http
import GardenAdmin.Json.Printer

/-!
# STOMP entry points

`Stomp η` holds the parameters of a STOMP connection with headers of type `η`: complete headers on
the server, rows with possibly a side missing in the form. Headers are read from a list of pairs or
from a mapping, whose entries keep their order and may repeat a name.
-/

namespace GardenAdmin

open Json Wire

structure StompSsl where
  useSsl : Option Bool := none
  caCert : Option String := none
  clientCert : Option String := none
  clientKey : Option String := none
  deriving DecidableEq, Repr

namespace StompSsl

/-- No certificate or key is set; the switch alone does not count. -/
def isBlank (s : StompSsl) : Bool :=
  isBlankText s.caCert && isBlankText s.clientCert && isBlankText s.clientKey

def layout : Layout StompSsl where
  blank := {}
  fields := [
    flagField "use_ssl" useSsl fun v s => { s with useSsl := v },
    textField "ca_cert" caCert fun v s => { s with caCert := v },
    textField "client_cert" clientCert fun v s => { s with clientCert := v },
    textField "client_key" clientKey fun v s => { s with clientKey := v }]

def toValue : StompSsl → Value := layout.toValue

def decoder : Decoder StompSsl := layout.decoder

end StompSsl

/-- A header as the server holds it. -/
structure StompHeader where
  key : String
  value : String
  deriving DecidableEq, Repr

namespace StompHeader

def layout : Layout StompHeader where
  blank := ⟨"", ""⟩
  fields := [
    .mandatory "key" key (fun v h => { h with key := v }) .string Decoder.string,
    .mandatory "value" value (fun v h => { h with value := v }) .string Decoder.string]

def toValue : StompHeader → Value := layout.toValue

def decoder : Decoder StompHeader := layout.decoder

end StompHeader

/-- A header row of the form. -/
structure HeaderRow where
  key : Option String := none
  value : Option String := none
  deriving DecidableEq, Repr

namespace HeaderRow

/-- The row as a header, if both sides carry text. -/
def complete? (r : HeaderRow) : Option StompHeader :=
  match r.key, r.value with
  | some key, some value => if key = "" ∨ value = "" then none else some ⟨key, value⟩
  | _, _ => none

/-- The row as a header, with a missing side empty. -/
def filled (r : HeaderRow) : StompHeader := ⟨r.key.getD "", r.value.getD ""⟩

def layout : Layout HeaderRow where
  blank := {}
  fields := [
    textField "key" key fun v r => { r with key := v },
    textField "value" value fun v r => { r with value := v }]

def toValue : HeaderRow → Value := layout.toValue

def decoder : Decoder HeaderRow := layout.decoder

/-- The row for an entry of a header mapping: a text as it is, `null` as a missing value, anything
else as its compact text. -/
def ofEntry (key : String) : Value → HeaderRow
  | .null => ⟨some key, none⟩
  | .string s => ⟨some key, some s⟩
  | v => ⟨some key, some v.compact⟩

/-- Reads an entry of a header mapping. -/
def entry (room : Nat) (m : Option String × Doc) : Except DecodeError HeaderRow :=
  match m.1 with
  | some key => ofEntry key <$> Decoder.value room m.2
  | none => .error .unexpected

/-- Reads header rows from `null`, a list of pairs or a mapping. -/
def rowsDecoder : Decoder (List HeaderRow)
  | _, .null => .ok []
  | room, .array xs => Decoder.list decoder room (.array xs)
  | room, .object ms => if room = 0 then .error .unexpected else ms.mapM (entry (room - 1))
  | _, _ => .error .unexpected

end HeaderRow

structure Stomp (η : Type) where
  host : Option String := none
  port : Option Int := none
  sendDestination : Option String := none
  subscribeDestination : Option String := none
  username : Option String := none
  password : Option String := none
  ssl : Option StompSsl := none
  headers : List η := []
  deriving DecidableEq, Repr

namespace Stomp

variable {η θ : Type}

/-- No header, no address, no credential and no certificate is set. -/
def isEmpty (s : Stomp η) : Bool :=
  s.headers.isEmpty && s.port.isNone && isBlankText s.host && isBlankText s.password &&
    isBlankText s.sendDestination && isBlankText s.subscribeDestination &&
    isBlankText s.username && s.ssl.elim true (·.isBlank)

/-- The parameters with other headers. -/
def withHeaders (s : Stomp η) (headers : List θ) : Stomp θ :=
  { host := s.host, port := s.port, sendDestination := s.sendDestination
    subscribeDestination := s.subscribeDestination, username := s.username
    password := s.password, ssl := s.ssl, headers }

/-- The header list, which is always written, and is read under two names. -/
def headersField (write : η → Value) (ofRow : HeaderRow → η) : FieldLayout (Stomp η) where
  name := "headers"
  aliases := ["stomp_headers"]
  required := false
  write s := some (.array (s.headers.map write))
  read room d := (fun rows s => { s with headers := rows.map ofRow }) <$>
    HeaderRow.rowsDecoder room d

def layout (write : η → Value) (ofRow : HeaderRow → η) : Layout (Stomp η) where
  blank := {}
  fields := [
    textField "host" host fun v s => { s with host := v },
    portField port fun v s => { s with port := v },
    textField "send_destination" sendDestination fun v s => { s with sendDestination := v },
    textField "subscribe_destination" subscribeDestination
      fun v s => { s with subscribeDestination := v },
    textField "username" username fun v s => { s with username := v },
    textField "password" password fun v s => { s with password := v },
    .optional "ssl" ssl (fun v s => { s with ssl := v }) StompSsl.toValue StompSsl.decoder,
    headersField write ofRow]

end Stomp

/-- STOMP parameters as the server holds them. -/
abbrev StompParams := Stomp StompHeader

/-- STOMP parameters as the form edits them. -/
abbrev StompForm := Stomp HeaderRow

namespace StompParams

def layout : Layout StompParams := Stomp.layout StompHeader.toValue HeaderRow.filled

def toValue : StompParams → Value := layout.toValue

def decoder : Decoder StompParams := layout.decoder

end StompParams

namespace StompForm

def layout : Layout StompForm := Stomp.layout HeaderRow.toValue id

def toValue : StompForm → Value := layout.toValue

def decoder : Decoder StompForm := layout.decoder

end StompForm

end GardenAdmin
