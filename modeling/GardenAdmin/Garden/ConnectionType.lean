import GardenAdmin.Wire.Decoder

/-!
# Connection types

How a garden is reached. A local garden is the server's own and has no connection.
-/

namespace GardenAdmin

open Json Wire

inductive ConnectionType where
  | http
  | stomp
  | local
  deriving DecidableEq, Repr

namespace ConnectionType

/-- The name on the wire and on screen. -/
def name : ConnectionType → String
  | .http => "HTTP"
  | .stomp => "STOMP"
  | .local => "LOCAL"

def ofName? (s : String) : Option ConnectionType :=
  if s = "HTTP" then some .http
  else if s = "STOMP" then some .stomp
  else if s = "LOCAL" then some .local
  else none

def toValue (t : ConnectionType) : Value := .string t.name

/-- Reads the name, or an object that maps nothing but the name to `null`. -/
def decoder : Decoder ConnectionType
  | _, .string (some s) => ofNameOrError s
  | room, .object ((some s, d) :: rest) =>
    if room = 0 then .error .unexpected
    else do
      let t ← ofNameOrError s
      match d, rest with
      | .null, [] => .ok t
      | _, _ => .error .unexpected
  | _, _ => .error .unexpected
where
  ofNameOrError (s : String) : Except DecodeError ConnectionType :=
    (ofName? s).elim (.error (.unknownConnectionType s)) .ok

end ConnectionType

end GardenAdmin
