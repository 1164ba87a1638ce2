import GardenAdmin.Events.Event
import GardenAdmin.Proofs.Garden.Wire
import GardenAdmin.Proofs.Wire.Field

/-!
# The identifier of a decoded record

A record names its identifier at most once, so the record that is decoded from a value has the text
of the value's `id` as its identifier (`Garden.id_of_ofValue`). An event tells by the same member
which garden it is about: an update never changes an identifier.
-/

namespace GardenAdmin

open Json Wire

variable {room : Nat} {v : Value}

theorem text?_of_optional {s : Option String}
    (read : Decoder.string.optional room v.toDoc = .ok s) : s = v.text? := by
  cases v with
  | null | string =>
    cases read
    rfl
  | bool | number | array | object => cases read

theorem Json.Value.lookup_toDocMembers (key : String) (ms : List (String × Value)) :
    (toDocMembers ms).lookup (some key) = (ms.lookup key).map toDoc := by
  induction ms with
  | nil => rfl
  | cons m ms ih =>
    obtain ⟨k, v⟩ := m
    by_cases same : key = k
    · subst same
      rw [toDocMembers, List.lookup_cons_self, List.lookup_cons_self, Option.map_some]
    · have other : (some key == some k) = false := beq_false_of_ne (by simpa using same)
      rw [toDocMembers, List.lookup_cons, List.lookup_cons, beq_false_of_ne same, other, ih]

namespace Garden

variable {g : Garden}

/-- The field of the identifier. -/
def idField : FieldLayout Garden :=
  .nullable "id" id (fun v g => { g with id := v }) .string Decoder.string

/-- No other field sets the identifier. -/
theorem isolates_id (room : Nat) : layout.Isolates idField room id Decoder.string.optional where
  mem := .head _
  named := by decide
  plain := rfl
  sets d set made := by
    obtain ⟨s, value, rfl⟩ := map_eq_ok_iff.1 made
    exact ⟨s, value, fun _ => rfl⟩
  others f mem other := by
    simp only [layout, List.mem_cons, List.not_mem_nil, or_false] at mem
    rcases mem with rfl | rfl | rfl | rfl | rfl
    case inl => exact absurd rfl other
    all_goals exact leaves_of_read rfl fun _ _ => rfl

theorem keepExtra_leaves (room : Nat) : Layout.Stray.Leaves keepExtra room id := by
  intro key d set made g
  obtain ⟨v, -, e⟩ := bind_eq_ok_iff.1 made
  cases e
  rfl

/-- The identifier of a record is the text of the value's `id`. -/
theorem id_of_ofValue (read : Decoder.ofValue decoder v = .ok g) :
    g.id = (v.get? "id").bind (·.text?) := by
  cases v with
  | object ms =>
    obtain ⟨_, ⟨⟩, members⟩ := exists_of_decoder read
    have comes := (isolates_id _).of_readMembers (keepExtra_leaves _) members
    have named : (Value.toDocMembers ms).lookup (some idField.name) =
        (ms.lookup "id").map Value.toDoc := Value.lookup_toDocMembers "id" ms
    rw [named] at comes
    rw [Value.get?, Value.members?, Option.bind_some]
    cases found : ms.lookup "id" with
    | none =>
      rw [found] at comes
      exact comes
    | some v =>
      rw [found] at comes
      exact text?_of_optional comes
  | null | bool | number | string | array => cases read

/-- The record in an event has the identifier that the event gives. -/
theorem id_of_payload {e : Event} (read : Decoder.ofValue decoder e.payload = .ok g) :
    g.id = e.payloadId? :=
  id_of_ofValue read

end Garden

end GardenAdmin
