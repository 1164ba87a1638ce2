import GardenAdmin.Events.Event
import GardenAdmin.Proofs.Garden.Wire

/-!
# What is decoded is encoded as itself

Whatever text a structure was decoded from, the text that it is encoded as decodes to it again
(`wire_round_trip`). All that this asks for is that the doubles in the generic values, those of an
event's payload and of a record's members of unknown name, read back from their own texts.
-/

namespace GardenAdmin

open Json Wire

/-! ## Events -/

namespace Event

variable {room : Nat} {e : Event}

/-- The payload and the time stamp are as they come from a text. -/
structure IsRead (room : Nat) (e : Event) : Prop where
  payload : e.payload.Canonical room
  timestamp : ∀ n, e.timestamp = some n → IsInt64 n

theorem isRead_of_decoder {d : Doc} (proper : d.Proper) (read : decoder room d = .ok e) :
    e.IsRead (room - 1) := by
  have blank : layout.blank.IsRead (room - 1) := ⟨.null _, by rintro n ⟨⟩⟩
  refine Layout.decoder_induction (P := IsRead (room - 1)) blank ?_ proper read
  intro f mem
  simp only [layout, List.mem_cons, List.not_mem_nil, or_false] at mem
  rcases mem with rfl | rfl | rfl | rfl | rfl | rfl
  case inr.inl =>
    exact keeps_of_read rfl fun d v proper read e h =>
      ⟨canonical_of_value? proper (value_eq_ok_iff.1 read), h.timestamp⟩
  case inr.inr.inr.inr.inr =>
    refine keeps_of_read rfl fun d a proper read e h => ⟨h.payload, ?_⟩
    rintro n rfl
    exact isInt64_of_decoder (eq_some_of_optional read)
  all_goals exact keeps_of_read rfl fun _ _ _ _ _ h => ⟨h.payload, h.timestamp⟩

theorem carries (h : e.IsRead room) (back : ∀ x ∈ e.payload.doubles, x.ReadsBack) :
    Carries decoder (room + 1) e.toValue e :=
  Layout.carries_toValue (by decide) <|
    .mandatory (carries_string room e.name) <|
    .plain (carries_value h.payload back) <|
    .optional (fun s _ => ⟨carries_string room s, string_ne_null s⟩) rfl <|
    .optional (fun s _ => ⟨carries_string room s, string_ne_null s⟩) rfl <|
    .optional (fun b _ => ⟨carries_bool room b, bool_ne_null b⟩) rfl <|
    .optional (fun n found =>
      ⟨carries_int64 room (h.timestamp n found), number_ne_null (.int n)⟩) rfl .done

end Event

/-! ## Texts -/

section

variable {α : Type} {read : Decoder α} {toValue : α → Value} {a : α}

/-- The text that `a` is encoded as decodes to `a`, and what it decodes to is encoded as the same
text. -/
structure RoundTrips (read : Decoder α) (toValue : α → Value) (a : α) : Prop where
  decodes : Decoder.text read (toValue a).compact = .ok a
  again : ∀ b, Decoder.text read (toValue a).compact = .ok b →
    (toValue b).compact = (toValue a).compact

theorem roundTrips_of_carries (carries : Carries read maxDepth (toValue a) a) :
    RoundTrips read toValue a := by
  refine ⟨carries.text_compact, fun b decoded => ?_⟩
  rw [carries.text_compact] at decoded
  cases decoded
  rfl

theorem read_of_text {t : String} (decoded : Decoder.text read t = .ok a) :
    read maxDepth (JsonText.read t).doc = .ok a :=
  (text_eq_ok_iff.1 decoded).1

end

/-- Every text that decodes leads to a structure whose own text decodes to it. The members of unknown
name of a record are those of the document, in its order; none of them has a known name, so no name
is written twice. -/
theorem wire_round_trip :
    (∀ t h, Decoder.text HttpParams.decoder t = .ok h →
      RoundTrips HttpParams.decoder HttpParams.toValue h) ∧
    (∀ t s, Decoder.text StompParams.decoder t = .ok s →
      RoundTrips StompParams.decoder StompParams.toValue s) ∧
    (∀ t s, Decoder.text StompForm.decoder t = .ok s →
      RoundTrips StompForm.decoder StompForm.toValue s) ∧
    (∀ t p, Decoder.text ConnectionParams.decoder t = .ok p →
      RoundTrips ConnectionParams.decoder ConnectionParams.toValue p) ∧
    (∀ t f, Decoder.text Form.decoder t = .ok f → RoundTrips Form.decoder Form.toValue f) ∧
    (∀ t e, Decoder.text Event.decoder t = .ok e → (∀ x ∈ e.payload.doubles, x.ReadsBack) →
      RoundTrips Event.decoder Event.toValue e) ∧
    ∀ t g, Decoder.text Garden.decoder t = .ok g →
      (∃ ms, (JsonText.read t).doc = .object ms ∧
        Doc.members? (maxDepth - 1) [] (ms.filter Garden.isUnknown) = some g.extra) ∧
      (∀ m ∈ g.extra, m.1 ∉ Garden.knownNames) ∧
      (∃ known, g.toValue = .object (known ++ g.extra) ∧
        ((known ++ g.extra).map Prod.fst).Nodup) ∧
      ((∀ m ∈ g.extra, ∀ x ∈ m.2.doubles, x.ReadsBack) →
        RoundTrips Garden.decoder Garden.toValue g) := by
  refine ⟨fun t h decoded => ?http, fun t s decoded => ?stomp, fun t s decoded => ?stompForm,
    fun t p decoded => ?params, fun t f decoded => ?form, fun t e decoded back => ?event,
    fun t g decoded => ?garden⟩
  case http =>
    exact roundTrips_of_carries
      (HttpParams.carries 126 (HttpParams.isPort_of_decoder (proper_read t) (read_of_text decoded)))
  case stomp =>
    exact roundTrips_of_carries
      (StompParams.carries 124 (Stomp.isPort_of_decoder (proper_read t) (read_of_text decoded)))
  case stompForm =>
    exact roundTrips_of_carries
      (StompForm.carries 124 (Stomp.isPort_of_decoder (proper_read t) (read_of_text decoded)))
  case params =>
    exact roundTrips_of_carries (ConnectionParams.carries 123
      (ConnectionParams.hasPorts_of_decoder (proper_read t) (read_of_text decoded)))
  case form =>
    exact roundTrips_of_carries
      (Form.carries 123 (Form.hasPorts_of_decoder (proper_read t) (read_of_text decoded)))
  case event =>
    exact roundTrips_of_carries
      (Event.carries (Event.isRead_of_decoder (proper_read t) (read_of_text decoded)) back)
  case garden =>
    have proper := proper_read t
    have decoded : Garden.decoder (126 + 1) (JsonText.read t).doc = .ok g := read_of_text decoded
    obtain ⟨ms, doc, read⟩ := Garden.exists_of_decoder decoded
    rw [doc] at proper
    cases proper with
    | object proper =>
      have own := Garden.hasOwnExtra_of_readMembers proper read
      refine ⟨⟨ms, doc, Garden.members?_of_readMembers proper read⟩, own.unknown,
        ⟨Garden.layout.members g, rfl, own.nodup_members⟩, fun back => ?_⟩
      exact roundTrips_of_carries
        (Garden.carries 122 own (Garden.hasPorts_of_readMembers proper read) back)

/-- A record with its port as a text, its headers as a mapping under their other name and a member of
unknown name that is given twice, and an event in array form. -/
theorem wire_round_trip_shed :
    let t := "\x7b\"load\": null, \"name\": \"shed\", \"connection_params\": \x7b\"stomp\": " ++
      "\x7b\"port\": \" 61613 \", \"stomp_headers\": \x7b\"a\": 2\x7d\x7d\x7d, \"load\": 1.5\x7d"
    let g : Garden := {
      name := "shed"
      connectionParams := some { stomp := some { port := some 61613, headers := [⟨"a", "2"⟩] } }
      extra := [("load", .number (.double ⟨false, ⟨6755399441055744, -52⟩⟩))] }
    let e : Event := {
      name := "GARDEN_SYNC", payload := .array [.number (.int (-7))], garden := some "shed" }
    Decoder.text Garden.decoder t = .ok g ∧ RoundTrips Garden.decoder Garden.toValue g ∧
      Decoder.text Event.decoder "[\"GARDEN_SYNC\", [-7], \"shed\"]" = .ok e ∧
      RoundTrips Event.decoder Event.toValue e := by
  intro t g e
  have record : Decoder.text Garden.decoder t = .ok g := by decide +kernel
  have event : Decoder.text Event.decoder "[\"GARDEN_SYNC\", [-7], \"shed\"]" = .ok e := by
    decide +kernel
  obtain ⟨-, -, -, -, -, events, records⟩ := wire_round_trip
  exact ⟨record, (records t g record).2.2.2 (by decide +kernel), event,
    events _ e event (by decide +kernel)⟩

end GardenAdmin
