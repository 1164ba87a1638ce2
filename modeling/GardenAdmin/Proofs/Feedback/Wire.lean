import GardenAdmin.Proofs.Feedback.Response
import GardenAdmin.Proofs.Json.Canonical
import GardenAdmin.Proofs.Panel.Preparation

/-!
# Errors on the wire

The document that grounded errors are written as reads as these errors (`ConfigErrors.ofValue?_toValue`),
also inside a failed response, where it may stand as an object or as a text (`ServerError.Rejects`). So
a server that sends the panel's own findings back shows nothing that the panel did not show itself
(`ServerError.rejection_round_trip`).
-/

namespace GardenAdmin

open Json

namespace ConfigErrors

variable {e : ConfigErrors}

/-! ## Documents read back -/

/-- The fields of an entry point with lists of messages. -/
def fieldMembers (fields : List (String × List String)) : List (String × Value) :=
  fields.map fun field => (field.1, .array (field.2.map .string))

theorem toValue_eq (e : ConfigErrors) : e.toValue = .object
    (e.byEntryPoint.entries.map fun entry => (entry.1, .object (fieldMembers entry.2.entries))) :=
  rfl

theorem memberMessages_fieldMembers (fields : List (String × List String)) :
    memberMessages "" (fieldMembers fields) =
      fields.flatMap fun field => field.2.map (field.1, ·) := by
  induction fields with
  | nil => rfl
  | cons field fields ih =>
    have own : fieldMessages (fieldPath "" field.1) (.array (field.2.map .string)) =
        field.2.map (field.1, ·) := by
      have name : fieldPath "" field.1 = field.1 := if_pos rfl
      rw [fieldMessages, List.filterMap_map, name]
      exact congrFun List.filterMap_eq_map field.2
    rw [fieldMembers, List.map_cons, memberMessages, own, ← fieldMembers, ih, List.flatMap_cons]

theorem entryPointComplaints_fieldMembers (entry : String × FieldErrors) :
    entryPointComplaints entry.1 (.object (fieldMembers entry.2.entries)) =
      entryComplaints entry := by
  rw [entryPointComplaints, memberMessages_fieldMembers, entryComplaints, List.map_flatMap]
  simp only [List.map_map]
  rfl

theorem documentComplaints_toValue (e : ConfigErrors) :
    documentComplaints (e.byEntryPoint.entries.map fun entry =>
      (entry.1, .object (fieldMembers entry.2.entries))) = e.complaints := by
  rw [documentComplaints, List.flatMap_map, complaints_eq]
  exact congrArg (List.flatMap · _) (funext entryPointComplaints_fieldMembers)

/-- Grounded errors are read from the document that they are written as. -/
theorem ofValue?_toValue (grounded : e.IsGrounded) : ofValue? e.toValue = some e := by
  rw [toValue_eq, ofValue?, Value.members?, Option.map_some, documentComplaints_toValue,
    ofComplaints_complaints grounded]

/-! ## Texts read back -/

theorem parses_entries {α : Type} {room : Nat} {es : List (String × α)} (ordered : Ordered es)
    {write : α → Value} (each : ∀ a, (write a).Parses room) :
    (Value.object (es.map fun entry => (entry.1, write entry.2))).Parses (room + 1) := by
  refine Value.parses_object ?_ fun m mem => ?_
  · rw [List.map_map]
    exact List.pairwise_map.2 (ordered.imp fun before => String.ne_of_lt before)
  · obtain ⟨entry, -, rfl⟩ := List.mem_map.1 mem
    exact each entry.2

theorem parses_toValue (room : Nat) (e : ConfigErrors) : e.toValue.Parses (room + 3) := by
  have messages (ms : List String) : (Value.array (ms.map .string)).Parses (room + 1) :=
    Value.parses_array fun v mem => by
      obtain ⟨s, -, rfl⟩ := List.mem_map.1 mem
      exact Value.parses_string room s
  have fields (fields : FieldErrors) :
      (Value.object (fieldMembers fields.entries)).Parses (room + 2) :=
    parses_entries fields.ordered messages
  exact parses_entries e.byEntryPoint.ordered fields

/-- The object that rejects settings with these errors. -/
def rejection (e : ConfigErrors) : Value := .object [("connection_params", e.toValue)]

theorem parses_member {room : Nat} (name : String) {v : Value} (h : v.Parses room) :
    (Value.object [(name, v)]).Parses (room + 1) :=
  Value.parses_object (List.nodup_singleton name) (List.forall_mem_singleton.2 h)

theorem parses_rejection (room : Nat) (e : ConfigErrors) : e.rejection.Parses (room + 4) :=
  parses_member "connection_params" (parses_toValue room e)

/-- The value is that object, or a text that it can be read from. -/
inductive Spells (e : ConfigErrors) : Value → Prop
  | object : Spells e e.rejection
  | text {s : String} (read : Value.parse? s = some e.rejection) : Spells e (.string s)

end ConfigErrors

namespace ServerError

variable {e : ConfigErrors} {v : Value} {status : Nat} {body : String}

/-- The body is an object whose message, or else whose error, spells a rejection with these errors. -/
def Rejects (e : ConfigErrors) (body : String) : Prop :=
  ∃ ms v, Value.parse? body = some (.object ms) ∧ e.Spells v ∧
    (ms.lookup "message" = some v ∨ ms.lookup "message" = none ∧ ms.lookup "error" = some v)

theorem rejection?_of_spells (grounded : e.IsGrounded) (nonempty : e.isEmpty = false)
    (spells : e.Spells v) : rejection? v = some e := by
  have found : structured? v = some e.rejection := by
    cases spells with
    | object => rfl
    | text read =>
      rw [structured?, read]
      rfl
  have params : e.rejection.get? "connection_params" = some e.toValue := rfl
  simp only [rejection?, found, params, ConfigErrors.ofValue?_toValue grounded, Option.bind_eq_bind,
    Option.bind_some, Option.filter_some, nonempty, Bool.not_false, if_true]

theorem ofResponse_of_rejects (grounded : e.IsGrounded) (nonempty : e.isEmpty = false)
    (rejects : Rejects e body) : ofResponse status body = .config e := by
  obtain ⟨ms, v, read, spells, member⟩ := rejects
  have message : messageMember? (.object ms) = some v := by
    change (ms.lookup "message" <|> ms.lookup "error") = some v
    obtain given | ⟨absent, given⟩ := member
    · rw [given]
      rfl
    · rw [absent, given]
      rfl
  refine ofResponse_of_rejection read ?_
  rw [message]
  exact rejection?_of_spells grounded nonempty spells

/-- Both spellings under either name, as they are written. -/
theorem rejects_compact {name : String} (named : name = "message" ∨ name = "error")
    (spells : e.Spells v) (parses : v.Parses 126) :
    Rejects e (Value.object [(name, v)]).compact := by
  refine ⟨[(name, v)], v, (ConfigErrors.parses_member name parses).parse?_compact, spells, ?_⟩
  obtain rfl | rfl := named
  · exact .inl rfl
  · exact .inr ⟨rfl, rfl⟩

theorem spells_compact (e : ConfigErrors) : e.Spells (.string e.rejection.compact) :=
  .text (Value.Parses.parse?_compact (ConfigErrors.parses_rejection 123 e))

/-- Errors that are built from complaints, merged or read are read from the document that they are
written as. If there are any, a response rejects settings with just these errors, whatever its
status, if its message is the object that holds them or a text of that object, and so does an error
without a message; the texts that these objects are written as are such responses. So a server that
sends the errors back that the panel found itself leaves the panel with the same feedback. -/
theorem rejection_round_trip :
    (∀ e : ConfigErrors, e.IsBuilt → ConfigErrors.ofValue? e.toValue = some e ∧
      (e.isEmpty = false → ∀ status body, Rejects e body → ofResponse status body = .config e) ∧
      ∀ name, name = "message" ∨ name = "error" →
        Rejects e (Value.object [(name, e.rejection)]).compact ∧
        Rejects e (Value.object [(name, .string e.rejection.compact)]).compact) ∧
    ∀ p : Panel, p.garden.isLocal = false → p.form.IsConfigured → ¬p.form.Passes →
      ∀ status body, Rejects p.prepare.1.fieldErrors body →
        p.clearFeedback.applyServerError (ofResponse status body) = p.prepare.1 := by
  constructor
  · intro e built
    refine ⟨ConfigErrors.ofValue?_toValue built.isGrounded, fun nonempty status body rejects =>
      ofResponse_of_rejects built.isGrounded nonempty rejects, fun name named => ⟨?_, ?_⟩⟩
    · exact rejects_compact named .object (ConfigErrors.parses_rejection 122 e)
    · exact rejects_compact named (spells_compact e) (Value.parses_string 126 _)
  · intro p remote configured rejected status body rejects
    have found : p.prepare = (p.clearFeedback.showConfigErrors p.form.params.errors, none) :=
      Panel.prepare_of_error remote (Form.connection_of_not_passes configured rejected)
    have errors : p.prepare.1.fieldErrors = p.form.params.errors := by
      rw [Panel.prepare_of_not_passes remote configured rejected]
    have nonempty : p.form.params.errors.isEmpty = false :=
      Bool.eq_false_iff.2 (mt ConnectionParams.isEmpty_errors_iff.1
        (mt Form.keepsRules_params_iff.1 rejected))
    rw [errors] at rejects
    rw [ofResponse_of_rejects p.form.params.isBuilt_errors.isGrounded nonempty rejects, found]
    rfl

/-- Errors under empty and dotted names in a text of the error of a response, and a port out of range
that comes back from the server. -/
theorem rejection_round_trip_stomp :
    let e := (ConfigErrors.empty.add ⟨"stomp", "ssl.use_ssl", missingData⟩).merge
      (ConfigErrors.empty.add ⟨"", "", "\"no\""⟩)
    let text := "\x7b \"connection_params\": \x7b\"\": \x7b\"\": [\"\\\"no\\\"\"]\x7d, \"stomp\": " ++
      "\x7b\"ssl.use_ssl\": [\"Missing data for required field.\"]\x7d\x7d\x7d"
    let body := (Value.object [("error", .string text)]).compact
    let p : Panel := {
      garden := { id := some "1", name := "shed", connectionType := some .http }
      form := { http := some { host := some "pi", port := some 0 } }
      alerts := [Panel.localWarning], fieldErrors := .empty }
    let found := p.prepare.1.fieldErrors
    let echo := (Value.object [("message", found.rejection)]).compact
    e.IsBuilt ∧ ConfigErrors.ofValue? e.toValue = some e ∧ e.isEmpty = false ∧ Rejects e body ∧
      ofResponse 400 body = .config e ∧ Rejects found echo ∧
      p.clearFeedback.applyServerError (ofResponse 400 echo) = p.prepare.1 := by
  intro e text body p found echo
  obtain ⟨round, echoes⟩ := rejection_round_trip
  have built : e.IsBuilt := .merge (.add .empty _) (.add .empty _)
  obtain ⟨back, config, -⟩ := round e built
  have spells : e.Spells (.string text) := .text (by decide +kernel)
  have rejects : Rejects e body := rejects_compact (.inr rfl) spells (Value.parses_string 126 text)
  have nonempty : e.isEmpty = false := by decide +kernel
  have port : found = .ofComplaints [⟨httpEntryPoint, "port", portOutOfRange⟩] := by decide +kernel
  have builtFound : found.IsBuilt := port ▸ ConfigErrors.isBuilt_ofComplaints _
  have sent : Rejects found echo := ((round found builtFound).2.2 "message" (.inl rfl)).1
  have fails : ¬p.form.Passes := fun passes => by
    obtain ⟨h', passed⟩ := passes.http _ rfl (by decide)
    cases passed
  exact ⟨built, back, nonempty, rejects, config nonempty 400 body rejects, sent,
    echoes p (by decide) (by decide) fails 400 echo sent⟩

end ServerError

end GardenAdmin
