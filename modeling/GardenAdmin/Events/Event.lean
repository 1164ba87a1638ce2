import GardenAdmin.Wire.Layout

/-!
# Events

What the server reports on the event stream. The kinds that concern gardens have names of their own.
-/

namespace GardenAdmin

open Json Wire

inductive EventKind where
  | gardenCreated
  | gardenUpdated
  | gardenRemoved
  | gardenSync
  | gardenStarted
  | gardenStopped
  | gardenUnreachable
  | gardenError
  | gardenNotConfigured
  | other
  deriving DecidableEq, Repr

/-- The kinds with the event names that stand for them. -/
def EventKind.names : List (String × EventKind) :=
  [("GARDEN_CREATED", .gardenCreated), ("GARDEN_UPDATED", .gardenUpdated),
   ("GARDEN_REMOVED", .gardenRemoved), ("GARDEN_SYNC", .gardenSync),
   ("GARDEN_STARTED", .gardenStarted), ("GARDEN_STOPPED", .gardenStopped),
   ("GARDEN_UNREACHABLE", .gardenUnreachable), ("GARDEN_ERROR", .gardenError),
   ("GARDEN_NOT_CONFIGURED", .gardenNotConfigured)]

def EventKind.ofName (name : String) : EventKind := (names.lookup name).getD .other

structure Event where
  name : String := ""
  payload : Value := .null
  garden : Option String := none
  payloadType : Option String := none
  error : Option Bool := none
  /-- Milliseconds since the epoch. -/
  timestamp : Option Int := none
  deriving DecidableEq, Repr

namespace Event

def kind (e : Event) : EventKind := .ofName e.name

/-- The `id` text of the payload. -/
def payloadId? (e : Event) : Option String := (e.payload.get? "id").bind (·.text?)

/-- The `name` text of the payload. -/
def payloadName? (e : Event) : Option String := (e.payload.get? "name").bind (·.text?)

/-- Whether the event is about the garden of that name, by its payload or its origin. -/
def concerns (e : Event) (name : String) : Bool :=
  e.payloadName? == some name || e.garden == some name

def layout : Layout Event where
  blank := {}
  fields := [
    .mandatory "name" name (fun v e => { e with name := v }) .string Decoder.string,
    .plain "payload" payload (fun v e => { e with payload := v }) id Decoder.value,
    .optional "garden" garden (fun v e => { e with garden := v }) .string Decoder.string,
    .optional "payload_type" payloadType (fun v e => { e with payloadType := v })
      .string Decoder.string,
    .optional "error" error (fun v e => { e with error := v }) .bool Decoder.bool,
    .optional "timestamp" timestamp (fun v e => { e with timestamp := v })
      (fun n => .number (.int n)) Decoder.int64]

def toValue : Event → Value := layout.toValue

def decoder : Decoder Event := layout.decoder

/-- Reads a message of the event stream. -/
def decode (message : String) : Except DecodeError Event := Decoder.text decoder message

end Event

end GardenAdmin
