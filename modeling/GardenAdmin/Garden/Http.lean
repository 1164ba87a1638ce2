import GardenAdmin.Wire.Layout
import GardenAdmin.Text.Blank

/-!
# HTTP entry points

The parameters of an HTTP connection, which record and form share. Absent and empty texts both count
as no value. A port may be written as a number or as a text.
-/

namespace GardenAdmin

open Json Wire

/-- Absent and empty texts. -/
def isBlankText (s : Option String) : Bool := s.elim true (· = "")

theorem isBlankText_none : isBlankText none = true := rfl

theorem isBlankText_some (s : String) : isBlankText (some s) = decide (s = "") := rfl

/-- Reads a port: an integer, a text that holds one, or a blank text for no port. -/
def portDecoder : Decoder (Option Int)
  | _, .null => .ok none
  | _, .string (some s) =>
    let t := Text.trim s
    if t = "" then .ok none else (Text.int64? t).elim (.error (.invalidPort t)) (.ok ∘ some)
  | room, d => some <$> Decoder.int64 room d

/-- A port field of a structure. -/
def portField {σ : Type} (get : σ → Option Int) (set : Option Int → σ → σ) : FieldLayout σ where
  name := "port"
  aliases := []
  required := false
  write s := (get s).map fun n => .number (.int n)
  read room d := set <$> portDecoder room d

/-- An optional text field of a structure. -/
def textField {σ : Type} (name : String) (get : σ → Option String)
    (set : Option String → σ → σ) : FieldLayout σ :=
  .optional name get set .string Decoder.string

/-- An optional switch of a structure. -/
def flagField {σ : Type} (name : String) (get : σ → Option Bool)
    (set : Option Bool → σ → σ) : FieldLayout σ :=
  .optional name get set .bool Decoder.bool

structure HttpParams where
  host : Option String := none
  port : Option Int := none
  urlPrefix : Option String := none
  caCert : Option String := none
  caVerify : Option Bool := none
  ssl : Option Bool := none
  clientCert : Option String := none
  clientKey : Option String := none
  deriving DecidableEq, Repr

namespace HttpParams

/-- Nothing that addresses or certifies the connection is set. The switches and the client key do
not count. -/
def isEmpty (h : HttpParams) : Bool :=
  h.port.isNone && isBlankText h.caCert && isBlankText h.clientCert && isBlankText h.host &&
    isBlankText h.urlPrefix

def layout : Layout HttpParams where
  blank := {}
  fields := [
    textField "host" host fun v h => { h with host := v },
    portField port fun v h => { h with port := v },
    textField "url_prefix" urlPrefix fun v h => { h with urlPrefix := v },
    textField "ca_cert" caCert fun v h => { h with caCert := v },
    flagField "ca_verify" caVerify fun v h => { h with caVerify := v },
    flagField "ssl" ssl fun v h => { h with ssl := v },
    textField "client_cert" clientCert fun v h => { h with clientCert := v },
    textField "client_key" clientKey fun v h => { h with clientKey := v }]

def toValue : HttpParams → Value := layout.toValue

def decoder : Decoder HttpParams := layout.decoder

end HttpParams

end GardenAdmin
