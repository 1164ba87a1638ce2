import GardenAdmin.Garden.ConnectionType
import GardenAdmin.Garden.Stomp

/-!
# Garden records

A garden as the server holds it. Members of unknown name are the server's own and are carried along
untouched, in document order; they never have the name of a known field.
-/

namespace GardenAdmin

open Json Wire

/-- One optional block per entry point. -/
structure ConnectionParams where
  http : Option HttpParams := none
  stomp : Option StompParams := none
  deriving DecidableEq, Repr

namespace ConnectionParams

def isEmpty (p : ConnectionParams) : Bool := p.http.isNone && p.stomp.isNone

def layout : Layout ConnectionParams where
  blank := {}
  fields := [
    .optional "http" http (fun v p => { p with http := v }) HttpParams.toValue HttpParams.decoder,
    .optional "stomp" stomp (fun v p => { p with stomp := v })
      StompParams.toValue StompParams.decoder]

def toValue : ConnectionParams → Value := layout.toValue

def decoder : Decoder ConnectionParams := layout.decoder

end ConnectionParams

structure Garden where
  id : Option String := none
  name : String := ""
  status : Option String := none
  connectionType : Option ConnectionType := none
  connectionParams : Option ConnectionParams := none
  /-- The members of unknown name. -/
  extra : List (String × Value) := []
  deriving DecidableEq, Repr

namespace Garden

/-- The server's own garden, whose connection cannot be edited. -/
def isLocal (g : Garden) : Bool := g.id.isNone || g.connectionType == some .local

theorem isLocal_iff {g : Garden} :
    g.isLocal ↔ g.id = none ∨ g.connectionType = some .local := by
  simp [isLocal]

theorem isLocal_eq_false_iff {g : Garden} :
    g.isLocal = false ↔ g.id.isSome ∧ g.connectionType ≠ some .local := by
  simp [isLocal]

/-- The known fields. -/
def layout : Layout Garden where
  blank := {}
  fields := [
    .nullable "id" id (fun v g => { g with id := v }) .string Decoder.string,
    .plain "name" name (fun v g => { g with name := v }) .string Decoder.string,
    textField "status" status fun v g => { g with status := v },
    .nullable "connection_type" connectionType (fun v g => { g with connectionType := v })
      ConnectionType.toValue ConnectionType.decoder,
    .nullable "connection_params" connectionParams (fun v g => { g with connectionParams := v })
      ConnectionParams.toValue ConnectionParams.decoder]

/-- Keeps a member of unknown name. -/
def keepExtra : Layout.Stray Garden := fun key room d => do
  let v ← Decoder.value room d
  return fun g => { g with extra := Value.insertMember key v g.extra }

/-- Reads a record, which only has the object form. -/
def decoder : Decoder Garden
  | room, .object ms =>
    if room = 0 then .error .unexpected else layout.readMembers keepExtra (room - 1) ms
  | _, _ => .error .unexpected

def toValue (g : Garden) : Value := .object (layout.members g ++ g.extra)

end Garden

end GardenAdmin
