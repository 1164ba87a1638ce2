import GardenAdmin.Proofs.Command.Configure
import GardenAdmin.Proofs.Events.Payload
import GardenAdmin.Proofs.Garden.Room
import GardenAdmin.Proofs.Json.Merged
import GardenAdmin.Proofs.Json.Part
import GardenAdmin.Proofs.Panel.Following

/-!
# Updates and fetched records

The record in an event is made from a value in memory, that of a fetched garden from a text. The two
ways agree: the text of the payload would be read as the same record, once each name in it is given
only once (`Event.update_like_fetched`).
-/

namespace GardenAdmin

open Json Wire

/-- What the text writes is what `t` writes, with each name of an object only once: where `t` has it
first, with what `t` has last. -/
def Json.IsMerged (t t' : String) : Prop := JsonText.read t' = ⟨(JsonText.read t).doc.merged, true⟩

theorem Json.isMerged_self {t : String} (whole : (JsonText.read t).isWhole)
    (distinct : (JsonText.read t).doc.NoRepeats) : IsMerged t t := by
  rw [IsMerged, distinct.merged_eq, ← whole]

/-! ## A value and its text -/

section

variable {α : Type} {read : Decoder α} {room : Nat} {t t' : String} {v : Value} {a : α}

theorem text_eq_ok_iff_of_isMerged (merged : IsMerged t t') :
    Decoder.text read t' = .ok a ↔ read maxDepth (JsonText.read t).doc.merged = .ok a := by
  rw [text_eq_ok_iff, merged]
  exact and_iff_left rfl

/-- The text that the value is written as has each name once. -/
theorem isMerged_compact (denotes : (JsonText.read t).doc.value? room = some v)
    (back : ∀ x ∈ v.doubles, x.ReadsBack) : IsMerged t v.compact := by
  have canonical := canonical_of_value? (proper_read t) denotes
  rw [IsMerged, Value.read_compact (canonical.prints back), Doc.merged_of_value? _ denotes]

/-- The value that a text denotes is read as the text is, with each name once. -/
theorem ofValue_eq_ok_iff (steady : Steady read) (enough : room ≤ maxDepth)
    (denotes : (JsonText.read t).doc.value? room = some v) (merged : IsMerged t t') :
    Decoder.ofValue read v = .ok a ↔ Decoder.text read t' = .ok a := by
  rw [text_eq_ok_iff_of_isMerged merged, Doc.merged_of_value? _ denotes,
    steady.ofValue_eq (canonical_of_value? (proper_read t) denotes) enough]

end

/-! ## The text of a payload -/

namespace Event

/-- A piece of the message that is the text of its payload. -/
structure IsPayloadText (message t : String) : Prop where
  piece : t.toList <:+: message.toList
  whole : (JsonText.read t).isWhole
  payload : payloadDoc? (JsonText.read message).doc = some (JsonText.read t).doc

variable {message t : String} {e : Event} {ms : List (String × Value)} {doc d : Doc}

theorem mem_parts_of_payloadDoc? (found : payloadDoc? doc = some d) : d ∈ doc.parts := by
  cases doc with
  | object members =>
    obtain ⟨before, after, rfl, -⟩ := List.lookup_eq_some_iff.1 found
    simp [Doc.parts]
  | array xs => exact List.mem_of_getElem? found
  | _ => cases found

/-- A payload that is an object has been given. -/
theorem exists_payloadDoc? (read : decode message = .ok e) (object : e.payload = .object ms) :
    ∃ d, payloadDoc? (JsonText.read message).doc = some d ∧
      d.value? (maxDepth - 1) = some e.payload := by
  have comes := payload_of_decoder (text_eq_ok_iff.1 read).1
  cases found : payloadDoc? (JsonText.read message).doc with
  | none =>
    rw [found] at comes
    cases object.symm.trans comes
  | some d =>
    rw [found] at comes
    exact ⟨d, rfl, value_eq_ok_iff.1 comes⟩

theorem exists_isPayloadText (read : decode message = .ok e) (object : e.payload = .object ms) :
    ∃ t, IsPayloadText message t := by
  obtain ⟨d, found, -⟩ := exists_payloadDoc? read object
  obtain ⟨t, piece, text⟩ :=
    exists_text_of_mem_parts (text_eq_ok_iff.1 read).2 (mem_parts_of_payloadDoc? found)
  exact ⟨t, piece, by rw [text], by rw [text, found]⟩

theorem IsPayloadText.value?_eq (h : IsPayloadText message t) (read : decode message = .ok e)
    (object : e.payload = .object ms) :
    (JsonText.read t).doc.value? (maxDepth - 1) = some e.payload := by
  obtain ⟨d, found, denotes⟩ := exists_payloadDoc? read object
  cases h.payload.symm.trans found
  exact denotes

theorem IsPayloadText.exists_isMerged (h : IsPayloadText message t) (read : decode message = .ok e)
    (object : e.payload = .object ms) : ∃ t', IsMerged t t' := by
  have denotes := h.value?_eq read object
  obtain ⟨t', text⟩ := exists_text_of_value? h.whole denotes
  exact ⟨t', by rw [IsMerged, text, Doc.merged_of_value? _ denotes]⟩

end Event

/-! ## Records -/

/-- What a request for a garden returns is read off the body of a successful response. -/
theorem Client.getGarden_eq_ok_iff {c : Client} {name : String} {replies : List Response}
    (leads : (httpTarget? (c.gardenUrl name)).isSome) (success : (firstReply replies).isSuccess)
    {g : Garden} :
    ((c.getGarden name).run (.replying replies)).1 = .ok g ↔
      Decoder.text Garden.decoder (firstReply replies).body = .ok g := by
  have result : ((c.getGarden name).run (.replying replies)).1 =
      decoded Garden.decoder (firstReply replies).sorted :=
    congrArg Prod.fst (c.run_call_bind .get none (.done <| decoded Garden.decoder ·) leads replies)
  rw [result, decoded_sorted_eq_ok_iff]
  exact and_iff_right success

/-- A panel that is concerned by an update shows the record in it, if there is one. -/
theorem Panel.handle_eq_load_iff {p : Panel} {e : Event} {g : Garden}
    (update : e.kind = .gardenUpdated) (identified : p.garden.id.isSome)
    (about : e.payloadId? = p.garden.id) :
    p.handle e = (load g, true) ↔ Decoder.ofValue Garden.decoder e.payload = .ok g := by
  constructor
  · intro handled
    obtain ⟨g', decoded, loaded⟩ := exists_load_of_followed update (congrArg Prod.snd handled)
    cases congrArg (·.1.garden) (loaded.symm.trans handled)
    exact decoded
  · intro decoded
    obtain ⟨id, own⟩ := Option.isSome_iff_exists.1 identified
    exact handle_of_update own (about.trans own) update decoded

/-- An update is read like a fetched record. A payload that is an object has its text in the message.
Some text says the same with each name once, and if no name is repeated, the payload's own text does.
Whatever text does, the payload makes a record exactly if that text is read as one, and the same one:
a panel that follows the update shows what a request for the garden would have returned, had that
text been the answer. -/
theorem Event.update_like_fetched {message : String} {e : Event} {ms : List (String × Value)}
    (read : decode message = .ok e) (object : e.payload = .object ms) :
    (∃ t, IsPayloadText message t) ∧
    ∀ t, IsPayloadText message t →
      (∃ t', IsMerged t t') ∧
      ((JsonText.read t).doc.NoRepeats → IsMerged t t) ∧
      ∀ t', IsMerged t t' → ∀ g,
        (Decoder.ofValue Garden.decoder e.payload = .ok g ↔
          Decoder.text Garden.decoder t' = .ok g) ∧
        ∀ (p : Panel) (c : Client) name replies, e.kind = .gardenUpdated → p.garden.id.isSome →
          e.payloadId? = p.garden.id → (httpTarget? (c.gardenUrl name)).isSome →
          (firstReply replies).isSuccess → (firstReply replies).body = t' →
          (p.handle e = (Panel.load g, true) ↔
            ((c.getGarden name).run (.replying replies)).1 = .ok g) := by
  refine ⟨exists_isPayloadText read object, fun t payload =>
    ⟨payload.exists_isMerged read object, isMerged_self payload.whole, fun t' merged g => ?_⟩⟩
  have same := ofValue_eq_ok_iff Garden.steady_decoder (Nat.sub_le maxDepth 1)
    (payload.value?_eq read object) merged (a := g)
  refine ⟨same, fun p c name replies update identified about leads success body => ?_⟩
  rw [Panel.handle_eq_load_iff update identified about, Client.getGarden_eq_ok_iff leads success,
    body, same]

/-- The name and a header are given twice in the payload. Its text is not read as a record, but the
payload itself is, the one that a request for the garden would return. -/
theorem Event.update_like_fetched_twice :
    let given := "\x7b\"id\": \"1\", \"name\": \"shed\", \"connection_params\": \x7b\"stomp\": " ++
      "\x7b\"headers\": \x7b\"a\": 1, \"b\": 2, \"a\": 3\x7d\x7d\x7d, \"name\": \"barn\"\x7d"
    let message := "\x7b\"name\": \"GARDEN_UPDATED\", \"payload\": " ++ given ++ "\x7d"
    let merged := "\x7b\"id\":\"1\",\"name\":\"barn\",\"connection_params\":\x7b\"stomp\":" ++
      "\x7b\"headers\":\x7b\"a\":3,\"b\":2\x7d\x7d\x7d\x7d"
    let g : Garden := {
      id := some "1", name := "barn"
      connectionParams := some { stomp := some { headers := [⟨"a", "3"⟩, ⟨"b", "2"⟩] } } }
    let p := Panel.load { id := some "1", name := "shed" }
    Decoder.text Garden.decoder given = .error (.duplicateField "name") ∧
      ∃ e t, decode message = .ok e ∧ IsPayloadText message t ∧ IsMerged t merged ∧
        p.handle e = (Panel.load g, true) := by
  intro given message merged g p
  let e : Event := {
    name := "GARDEN_UPDATED"
    payload := .object [("id", .string "1"), ("name", .string "barn"),
      ("connection_params", .object [("stomp", .object [("headers",
        .object [("a", .number (.int 3)), ("b", .number (.int 2))])])])] }
  have read : decode message = .ok e := by decide +kernel
  have text : merged = e.payload.compact := by decide +kernel
  have fetched : ((Client.getGarden ⟨"http://localhost", none⟩ "shed").run
      (.replying [⟨200, merged⟩])).1 = .ok g := by decide +kernel
  obtain ⟨⟨t, payload⟩, texts⟩ := update_like_fetched read rfl
  obtain ⟨-, -, agree⟩ := texts t payload
  have isMerged : IsMerged t merged :=
    text ▸ isMerged_compact (payload.value?_eq read rfl) (by decide +kernel)
  refine ⟨by decide +kernel, e, t, read, payload, isMerged, ?_⟩
  refine ((agree merged isMerged g).2 p ⟨"http://localhost", none⟩ "shed" [⟨200, merged⟩]
    ?_ rfl ?_ ?_ rfl rfl).2 fetched
  all_goals decide +kernel

end GardenAdmin
