import GardenAdmin.Proofs.Feedback.Leaves

/-!
# Errors group what came in

Built errors come from complaints that came in one after the other (`ConfigErrors.IsBuiltFrom`): those
of a document are what its leaves say, in document order, and those of other errors come in when these
are merged. The steps do not matter: the errors are what the complaints come to, added one by one
(`ConfigErrors.IsBuiltFrom.eq_ofComplaints`). So merging behaves as putting one list of complaints
behind another does (`ConfigErrors.grouping_of_isBuilt`).
-/

namespace GardenAdmin

open Json

namespace ConfigErrors

open Complaint (messagesAbout)

variable {a b c e : ConfigErrors} {as bs cs : List Complaint}

/-- Errors with the complaints that they were built from, in the order in which these came in. -/
inductive IsBuiltFrom : ConfigErrors → List Complaint → Prop
  | empty : IsBuiltFrom empty []
  | add {e : ConfigErrors} {cs : List Complaint} (built : IsBuiltFrom e cs) (c : Complaint) :
      IsBuiltFrom (e.add c) (cs ++ [c])
  | merge {a b : ConfigErrors} {as bs : List Complaint} (builtA : IsBuiltFrom a as)
      (builtB : IsBuiltFrom b bs) : IsBuiltFrom (a.merge b) (as ++ bs)
  | read {ms : List (String × Value)} {e : ConfigErrors} (read : ofValue? (.object ms) = some e) :
      IsBuiltFrom e ((Value.documentLeaves ms).map fun l => l.2.complaint l.1)

/-- Whatever was built was built from complaints in some order. -/
theorem isBuilt_iff_exists : e.IsBuilt ↔ ∃ cs, e.IsBuiltFrom cs := by
  constructor
  · intro built
    induction built with
    | empty => exact ⟨_, .empty⟩
    | add _ c ih =>
      obtain ⟨cs, built⟩ := ih
      exact ⟨_, built.add c⟩
    | merge _ _ ihA ihB =>
      obtain ⟨as, builtA⟩ := ihA
      obtain ⟨bs, builtB⟩ := ihB
      exact ⟨_, builtA.merge builtB⟩
    | @read v e read =>
      obtain ⟨ms, object, -⟩ := Option.map_eq_some_iff.1 read
      cases v <;> cases object
      exact ⟨_, .read read⟩
  · rintro ⟨cs, built⟩
    induction built with
    | empty => exact .empty
    | add _ c ih => exact ih.add c
    | merge _ _ ihA ihB => exact ihA.merge ihB
    | read read => exact .read read

/-- Errors are what the complaints that they were built from come to, added one by one: by induction
over the steps, where a merge puts one list behind the other. -/
theorem IsBuiltFrom.eq_ofComplaints (built : e.IsBuiltFrom cs) : e = ofComplaints cs := by
  induction built with
  | empty => rfl
  | @add e cs _ c ih =>
    rw [ih]
    exact (addAll_append .empty cs [c]).symm
  | merge _ _ ihA ihB => rw [ofComplaints_append, ← ihA, ← ihB]
  | read read =>
    cases read
    exact congrArg ofComplaints (documentComplaints_eq _)

theorem IsBuiltFrom.merge_assoc (builtA : a.IsBuiltFrom as) (builtB : b.IsBuiltFrom bs)
    (builtC : c.IsBuiltFrom cs) : (a.merge b).merge c = a.merge (b.merge c) :=
  calc
    (a.merge b).merge c = ofComplaints (as ++ bs ++ cs) :=
      ((builtA.merge builtB).merge builtC).eq_ofComplaints
    _ = ofComplaints (as ++ (bs ++ cs)) := by rw [List.append_assoc]
    _ = a.merge (b.merge c) := (builtA.merge (builtB.merge builtC)).eq_ofComplaints.symm

/-- Built errors name no entry point without a field and no field without a message, so they are empty
exactly if there is no message. They were built from complaints in some order, and they are what these
come to when they are added one by one in that order: every field has the messages about it, in that
order. Merging puts the messages of one behind those of the other in every field. It is associative,
and errors stay as they are when none are merged with them. In whichever order errors are merged, they
name the same entry points and fields and show the same warnings. -/
theorem grouping_of_isBuilt (builtA : a.IsBuilt) (builtB : b.IsBuilt) (builtC : c.IsBuilt) :
    ((∀ entryPoint ∈ a.entryPoints, a.fields entryPoint ≠ [] ∧
        ∀ entry ∈ a.fields entryPoint, entry.2 ≠ []) ∧
      (a.isEmpty ↔ ∀ entryPoint field, a.messages entryPoint field = [])) ∧
    ((∃ cs, a.IsBuiltFrom cs) ∧
      ∀ cs, a.IsBuiltFrom cs → a = ofComplaints cs ∧
        ∀ entryPoint field, a.messages entryPoint field = messagesAbout cs entryPoint field) ∧
    (∀ entryPoint field, (a.merge b).messages entryPoint field =
      a.messages entryPoint field ++ b.messages entryPoint field) ∧
    ((a.merge b).merge c = a.merge (b.merge c) ∧ empty.merge a = a ∧ a.merge empty = a) ∧
    (a.merge b).entryPoints = (b.merge a).entryPoints ∧
    (∀ entryPoint, ((a.merge b).fields entryPoint).map (·.1) =
      ((b.merge a).fields entryPoint).map (·.1)) ∧
    (a.merge b).alerts = (b.merge a).alerts := by
  have grounded := builtA.isGrounded
  obtain ⟨as, fromA⟩ := isBuilt_iff_exists.1 builtA
  obtain ⟨bs, fromB⟩ := isBuilt_iff_exists.1 builtB
  obtain ⟨cs, fromC⟩ := isBuilt_iff_exists.1 builtC
  refine ⟨⟨fun entryPoint named => ⟨grounded.full.fields_ne_nil named,
      fun entry => grounded.ne_nil_of_mem_fields⟩, grounded.isEmpty_iff⟩,
    ⟨⟨as, fromA⟩, fun cs built => ?_⟩, messages_merge a b,
    ⟨fromA.merge_assoc fromB fromC, empty_merge grounded.full, rfl⟩,
    entryPoints_merge_comm a b, map_fst_fields_merge_comm a b, alerts_merge_comm a b⟩
  have grouped := built.eq_ofComplaints
  exact ⟨grouped, fun entryPoint field => by rw [grouped, messages_ofComplaints]⟩

/-- Complaints about one field, two of them read from a document that names another field and another
entry point without a message. -/
theorem grouping_of_isBuilt_port :
    let ms : List (String × Value) := [
      ("http", .object [("port", .array [.string "two", .null, .string "three"]),
        ("host", .array [])]),
      ("", .object [("ssl", .null)])]
    let a := (empty.add ⟨"stomp", "port", "zero"⟩).add ⟨"http", "port", "one"⟩
    let c := empty.add ⟨"http", "port", "four"⟩
    ∃ b, ofValue? (.object ms) = some b ∧ a.IsBuilt ∧ b.IsBuilt ∧ c.IsBuilt ∧
      (a.merge b).messages "http" "port" = ["one", "two", "three"] ∧
      (b.merge a).messages "http" "port" = ["two", "three", "one"] ∧
      (a.merge b).alerts = (b.merge a).alerts ∧ (a.merge b).merge c = a.merge (b.merge c) ∧
      a.merge (b.merge c) = ofComplaints [⟨"stomp", "port", "zero"⟩, ⟨"http", "port", "one"⟩,
        ⟨"http", "port", "two"⟩, ⟨"http", "port", "three"⟩, ⟨"http", "port", "four"⟩] := by
  intro ms a c
  let b := ofComplaints (documentComplaints ms)
  have read : ofValue? (.object ms) = some b := rfl
  have fromA : a.IsBuiltFrom [⟨"stomp", "port", "zero"⟩, ⟨"http", "port", "one"⟩] :=
    .add (.add .empty _) _
  have fromB : b.IsBuiltFrom [⟨"http", "port", "two"⟩, ⟨"http", "port", "three"⟩] := .read read
  have fromC : c.IsBuiltFrom [⟨"http", "port", "four"⟩] := .add .empty _
  have builtA : a.IsBuilt := .add (.add .empty _) _
  have builtB : b.IsBuilt := .read read
  have builtC : c.IsBuilt := .add .empty _
  obtain ⟨-, -, joined, ⟨assoc, -⟩, -, -, alerts⟩ := grouping_of_isBuilt builtA builtB builtC
  obtain ⟨-, -, turned, -⟩ := grouping_of_isBuilt builtB builtA builtC
  obtain ⟨-, ⟨-, grouped⟩, -⟩ :=
    grouping_of_isBuilt (.merge builtA (.merge builtB builtC)) builtB builtC
  exact ⟨b, read, builtA, builtB, builtC, (joined "http" "port").trans (by decide +kernel),
    (turned "http" "port").trans (by decide +kernel), alerts, assoc,
    (grouped _ (fromA.merge (fromB.merge fromC))).1⟩

end ConfigErrors

end GardenAdmin
