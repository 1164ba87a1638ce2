import GardenAdmin.Events.Event
import GardenAdmin.Proofs.Wire.Field

/-!
# The payload of a message

A message names its payload or gives it as its second item (`Event.payloadDoc?`). The payload of the
event that is read is the value of that document, or `null` if there is none
(`Event.payload_of_decoder`).
-/

namespace GardenAdmin

open Json Wire

namespace Event

/-- The document that a message has for its payload. -/
def payloadDoc? : Doc → Option Doc
  | .object ms => ms.lookup (some "payload")
  | .array xs => xs[1]?
  | .null | .bool _ | .number _ | .string _ | .broken => none

variable {room : Nat} {e : Event} {doc : Doc}

/-- The field of the payload. -/
def payloadField : FieldLayout Event :=
  .plain "payload" payload (fun v e => { e with payload := v }) id Decoder.value

/-- No other field sets the payload. -/
theorem isolates_payload (room : Nat) :
    layout.Isolates payloadField room payload Decoder.value where
  mem := .tail _ (.head _)
  named := by decide
  plain := rfl
  sets d set made := by
    obtain ⟨v, value, rfl⟩ := map_eq_ok_iff.1 made
    exact ⟨v, value, fun _ => rfl⟩
  others f mem other := by
    simp only [layout, List.mem_cons, List.not_mem_nil, or_false] at mem
    rcases mem with rfl | rfl | rfl | rfl | rfl | rfl
    case inr.inl => exact absurd rfl other
    all_goals exact leaves_of_read rfl fun _ _ => rfl

theorem payload_of_decoder (read : decoder room doc = .ok e) :
    Comes Decoder.value (room - 1) .null (payloadDoc? doc) e.payload := by
  have comes := (isolates_payload _).of_decoder [_] rfl read
  cases doc <;> exact comes

end Event

end GardenAdmin
