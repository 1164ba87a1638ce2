import Mathlib.Data.List.Forall2
import GardenAdmin.Proofs.Garden.Wire
import GardenAdmin.Proofs.Wire.Slot

/-!
# Spellings of STOMP headers

Headers are written as a list of pairs or as a mapping, under either of two names, and all of these
are read as the same rows in the order of the document. The server's parameters decode exactly where
the form does, with the rows' missing sides empty (`stomp_decoders_agree`).
-/

namespace GardenAdmin

open Json Wire

/-- The object of a pair. A value that is missing is `null` or left out. -/
inductive WritesPair : String × Option String → Doc → Prop
  | both (key value : String) : WritesPair (key, some value)
    (.object [(some "key", .string (some key)), (some "value", .string (some value))])
  | null (key : String) : WritesPair (key, none)
    (.object [(some "key", .string (some key)), (some "value", .null)])
  | absent (key : String) : WritesPair (key, none) (.object [(some "key", .string (some key))])

/-- The member of a mapping for a pair. A value that is missing is `null`. -/
inductive WritesEntry : String × Option String → Option String × Doc → Prop
  | text (key value : String) : WritesEntry (key, some value) (some key, .string (some value))
  | null (key : String) : WritesEntry (key, none) (some key, .null)

/-- The pairs in their order, as a list or as a mapping. -/
inductive WritesPairs (pairs : List (String × Option String)) : Doc → Prop
  | list {xs : List Doc} (each : List.Forall₂ WritesPair pairs xs) : WritesPairs pairs (.array xs)
  | mapping {ms : List (Option String × Doc)} (each : List.Forall₂ WritesEntry pairs ms) :
    WritesPairs pairs (.object ms)

/-- What a value in a mapping is as a header value: `null` is missing, and what is no text is its
compact JSON text. -/
inductive EntryValue : Value → Option String → Prop
  | null : EntryValue .null none
  | text (s : String) : EntryValue (.string s) (some s)
  | other {v : Value} (notNull : v ≠ .null) (notText : ∀ s, v ≠ .string s) :
    EntryValue v (some v.compact)

/-- The row for a member of a mapping. -/
inductive IsEntry (room : Nat) : Option String × Doc → HeaderRow → Prop
  | row {key : String} {d : Doc} {v : Value} {value : Option String}
    (denotes : d.value? room = some v) (text : EntryValue v value) :
    IsEntry room (some key, d) ⟨some key, value⟩

namespace HeaderRow

variable {room : Nat} {key : String} {v : Value} {m : Option String × Doc} {row : HeaderRow}

theorem ofEntry_eq_iff :
    ofEntry key v = row ↔ ∃ value, EntryValue v value ∧ ⟨some key, value⟩ = row := by
  cases v with
  | null =>
    constructor
    · exact fun e => ⟨none, .null, e⟩
    · rintro ⟨_, _ | _ | ⟨notNull, -⟩, rfl⟩
      · rfl
      · exact absurd rfl notNull
  | string s =>
    constructor
    · exact fun e => ⟨some s, .text s, e⟩
    · rintro ⟨_, _ | _ | ⟨-, notText⟩, rfl⟩
      · rfl
      · exact absurd rfl (notText s)
  | bool | number | array | object =>
    constructor
    · exact fun e => ⟨_, .other (by rintro ⟨⟩) (by rintro _ ⟨⟩), e⟩
    · rintro ⟨_, _ | _ | _, rfl⟩
      rfl

theorem entry_eq_ok_iff : entry room m = .ok row ↔ IsEntry room m row := by
  obtain ⟨_ | key, d⟩ := m
  · exact ⟨nofun, nofun⟩
  · have read : entry room (some key, d) = ofEntry key <$> Decoder.value room d := rfl
    simp only [read, map_eq_ok_iff, value_eq_ok_iff, ofEntry_eq_iff]
    constructor
    · rintro ⟨v, denotes, value, text, rfl⟩
      exact .row denotes text
    · rintro ⟨denotes, text⟩
      exact ⟨_, denotes, _, text, rfl⟩

/-- A mapping is read entry by entry. -/
theorem rowsDecoder_object_eq_ok_iff {ms : List (Option String × Doc)} {rows : List HeaderRow} :
    rowsDecoder (room + 1) (.object ms) = .ok rows ↔ List.Forall₂ (IsEntry room) ms rows := by
  rw [rowsDecoder, if_neg (Nat.succ_ne_zero room), Nat.add_sub_cancel, mapM_eq_ok_iff]
  simp only [entry_eq_ok_iff]

/-- The row of a pair. -/
def ofPair (pair : String × Option String) : HeaderRow := ⟨some pair.1, pair.2⟩

theorem decoder_of_writesPair {pair : String × Option String} {d : Doc} (writes : WritesPair pair d)
    (room : Nat) : decoder (room + 1) d = .ok (ofPair pair) := by
  cases writes <;> rfl

theorem isEntry_of_writesEntry {pair : String × Option String} (writes : WritesEntry pair m)
    (room : Nat) : IsEntry room m (ofPair pair) := by
  cases writes with
  | text key value => exact .row rfl (.text value)
  | null key => exact .row rfl .null

theorem rowsDecoder_of_writesPairs {pairs : List (String × Option String)} {d : Doc}
    (writes : WritesPairs pairs d) (room : Nat) :
    rowsDecoder (room + 2) d = .ok (pairs.map ofPair) := by
  cases writes with
  | list each =>
    refine mapM_eq_ok_iff.2 (List.forall₂_map_right_iff.2 (each.flip.imp ?_))
    exact fun d pair writes => decoder_of_writesPair writes room
  | mapping each =>
    refine rowsDecoder_object_eq_ok_iff.2 (List.forall₂_map_right_iff.2 (each.flip.imp ?_))
    exact fun m pair writes => isEntry_of_writesEntry writes (room + 1)

end HeaderRow

/-! ## Either decoder -/

/-- The server's parameters for a form: a header for every row, with a missing side empty. -/
def StompForm.asServer (s : StompForm) : StompParams := s.withHeaders (s.headers.map (·.filled))

theorem mirrors_asServer : StompForm.layout.Mirrors StompParams.layout StompForm.asServer where
  blank := rfl
  fields := by
    -- Only the headers are set in different ways: the server fills the rows that the form keeps.
    have headers (rows : List HeaderRow) (s : StompForm) :
        { s.asServer with headers := rows.map HeaderRow.filled } =
          StompForm.asServer { s with headers := rows.map id } := by
      rw [StompForm.asServer, StompForm.asServer, List.map_id]
      rfl
    refine .cons ?_ <| .cons ?_ <| .cons ?_ <| .cons ?_ <| .cons ?_ <| .cons ?_ <| .cons ?_ <|
      .cons ?_ .nil
    case refine_8 => exact FieldLayout.mirrors_of_read rfl rfl rfl rfl rfl headers
    all_goals exact FieldLayout.mirrors_of_read rfl rfl rfl rfl rfl fun _ _ => rfl

/-- The server reads headers where the form does. -/
theorem StompParams.decoder_eq (room : Nat) (d : Doc) :
    StompParams.decoder room d = StompForm.asServer <$> StompForm.decoder room d :=
  mirrors_asServer.decoder room d

theorem StompParams.text_eq (t : String) : Decoder.text StompParams.decoder t =
    StompForm.asServer <$> Decoder.text StompForm.decoder t := by
  simp only [Decoder.text, StompParams.decoder_eq]
  cases StompForm.decoder maxDepth (JsonText.read t).doc with
  | error e => rfl
  | ok s => cases (JsonText.read t).isWhole <;> rfl

/-! ## Either name -/

/-- The names that headers are read under. -/
def headerNames : List String := ["headers", "stomp_headers"]

/-- The slot of the headers: the only member with one of their names. -/
def Wire.Slot.IsHeaders : Slot → Prop
  | .member before key after => key ∈ headerNames ∧
    ∀ m ∈ before ++ after, ∀ name ∈ headerNames, m.1 ≠ some name
  | .item .. => False

namespace Stomp

variable {η : Type} (write : η → Value) (ofRow : HeaderRow → η)

theorem answersTo_headersField {key : String} :
    (headersField write ofRow).answersTo key ↔ key ∈ headerNames := by
  simp [FieldLayout.answersTo, headersField, headerNames]

theorem owns_headers : (layout write ofRow).Owns (headersField write ofRow) HeaderRow.rowsDecoder
    fun rows s => { s with headers := rows.map ofRow } where
  mem := by simp [layout]
  named := isWellNamed write ofRow
  answers key answers := by
    rcases List.mem_pair.1 ((answersTo_headersField write ofRow).1 answers) with rfl | rfl <;> rfl
  optional := rfl
  reads := rfl
  others f mem other := by
    simp only [layout, List.mem_cons, List.not_mem_nil, or_false] at mem
    rcases mem with rfl | rfl | rfl | rfl | rfl | rfl | rfl | rfl
    case inr.inr.inr.inr.inr.inr.inr => exact absurd rfl other
    all_goals exact commutes_of_read rfl fun _ _ _ => rfl
  overwrites _ _ _ := rfl

end Stomp

theorem hasSlot_of_isHeaders {η : Type} {write : η → Value} {ofRow : HeaderRow → η} {slot : Slot}
    (own : slot.IsHeaders) :
    (Stomp.layout write ofRow).HasSlot (Stomp.headersField write ofRow) slot := by
  cases slot with
  | member before key after =>
    obtain ⟨name, others⟩ := own
    refine ⟨(Stomp.answersTo_headersField write ofRow).2 name, fun m mem key given => ?_⟩
    rw [← Bool.not_eq_true, Stomp.answersTo_headersField]
    exact fun named => others m mem key named given
  | item => cases own

namespace StompForm

variable {room : Nat} {slot : Slot} {f : StompForm}

/-- Whatever stands in the slot of the headers gives the rows, and changes nothing else. -/
theorem decoder_fill (own : slot.IsHeaders) (vacant : decoder room slot.vacant = .ok f) (d : Doc) :
    decoder room (slot.fill d) =
      (fun rows => { f with headers := rows }) <$> HeaderRow.rowsDecoder (room - 1) d := by
  have fill := ((Stomp.owns_headers HeaderRow.toValue id).decoder_fill (hasSlot_of_isHeaders own)
    (fun _ => rfl) room d).1 f vacant
  simp only [List.map_id] at fill
  exact fill

end StompForm

/-- The decoders of STOMP parameters and of STOMP forms accept the same documents and read the same
from them, up to missing sides of rows. The rows are the pairs that were written, in their order,
whichever shape and name they were written with. A second list of headers is an error. -/
theorem stomp_decoders_agree :
    (∀ room d, StompParams.decoder room d =
      (fun f => f.withHeaders (f.headers.map fun r => ⟨r.key.getD "", r.value.getD ""⟩)) <$>
        StompForm.decoder room d) ∧
    (∀ t, Decoder.text StompParams.decoder t =
      (fun f => f.withHeaders (f.headers.map fun r => ⟨r.key.getD "", r.value.getD ""⟩)) <$>
        Decoder.text StompForm.decoder t) ∧
    (∀ room (slot : Slot) pairs d f, slot.IsHeaders → WritesPairs pairs d →
      StompForm.decoder (room + 3) slot.vacant = .ok f →
      StompForm.decoder (room + 3) (slot.fill d) =
        .ok { f with headers := pairs.map fun pair => ⟨some pair.1, pair.2⟩ } ∧
      StompParams.decoder (room + 3) (slot.fill d) =
        .ok (f.withHeaders (pairs.map fun pair => ⟨pair.1, pair.2.getD ""⟩))) ∧
    (∀ room (slot : Slot) ms f, slot.IsHeaders → StompForm.decoder (room + 2) slot.vacant = .ok f →
      ∀ s, StompForm.decoder (room + 2) (slot.fill (.object ms)) = .ok s ↔
        ∃ rows, List.Forall₂ (IsEntry room) ms rows ∧ s = { f with headers := rows }) ∧
    ∀ room before mid after key key' d d', key ∈ headerNames → key' ∈ headerNames →
      let twice : Doc := .object (before ++ (some key, d) :: mid ++ (some key', d') :: after)
      (∀ s, StompForm.decoder room twice ≠ .ok s) ∧ (∀ s, StompParams.decoder room twice ≠ .ok s) ∧
      ∀ s, StompForm.decoder room (.object (before ++ (some key, d) :: mid)) = .ok s →
        StompForm.decoder room twice = .error (.duplicateField "headers") := by
  refine ⟨StompParams.decoder_eq, StompParams.text_eq,
    fun room slot pairs d f own writes vacant => ?_, fun room slot ms f own vacant s => ?_,
    fun room before mid after key key' d d' named named' => ?_⟩
  · have form : StompForm.decoder (room + 3) (slot.fill d) =
        .ok { f with headers := pairs.map HeaderRow.ofPair } := by
      rw [StompForm.decoder_fill own vacant]
      exact congrArg _ (HeaderRow.rowsDecoder_of_writesPairs writes room)
    refine ⟨form, ?_⟩
    rw [StompParams.decoder_eq, form]
    refine congrArg Except.ok ?_
    rw [StompForm.asServer, List.map_map]
    rfl
  · have entries {rows : List HeaderRow} : HeaderRow.rowsDecoder (room + 2 - 1) (.object ms) =
        .ok rows ↔ List.Forall₂ (IsEntry room) ms rows := HeaderRow.rowsDecoder_object_eq_ok_iff
    rw [StompForm.decoder_fill own vacant, map_eq_ok_iff]
    exact exists_congr fun rows => and_congr entries eq_comm
  · have owns := Stomp.owns_headers HeaderRow.toValue id
    have answers := (Stomp.answersTo_headersField HeaderRow.toValue id).2 named
    have answers' := (Stomp.answersTo_headersField HeaderRow.toValue id).2 named'
    obtain ⟨never, duplicate⟩ := owns.decoder_twice answers answers' room before mid after d d'
    refine ⟨never, fun s done => ?_, duplicate⟩
    rw [StompParams.decoder_eq, map_eq_ok_iff] at done
    obtain ⟨f, done, -⟩ := done
    exact never f done

/-- A name that is repeated in a mapping makes a row each time, and an empty second list is one too
many. -/
theorem stomp_decoders_agree_repeated :
    let slot : Slot := .member [(some "host", .string (some "broker"))] "stomp_headers" []
    let doc := slot.fill (.object [(some "a", .string (some "1")), (some "a", .null)])
    StompForm.decoder 3 doc = .ok
      { host := some "broker", headers := [⟨some "a", some "1"⟩, ⟨some "a", none⟩] } ∧
    StompParams.decoder 3 doc = .ok
      { host := some "broker", headers := [⟨"a", "1"⟩, ⟨"a", ""⟩] } ∧
    StompForm.decoder 1 (.object [(some "headers", .null), (some "stomp_headers", .null)]) =
      .error (.duplicateField "headers") := by
  intro slot doc
  obtain ⟨-, -, pairs, -, twice⟩ := stomp_decoders_agree
  have own : slot.IsHeaders := ⟨by decide, by decide⟩
  have vacant : StompForm.decoder 3 slot.vacant = .ok { host := some "broker" } := rfl
  have writes : WritesPairs [("a", some "1"), ("a", none)]
      (.object [(some "a", .string (some "1")), (some "a", .null)]) :=
    .mapping (.cons (.text "a" "1") (.cons (.null "a") .nil))
  obtain ⟨form, params⟩ := pairs 0 slot _ _ _ own writes vacant
  refine ⟨form, params, ?_⟩
  exact (twice 1 [] [] [] "headers" "stomp_headers" .null .null (by decide) (by decide)).2.2 {} rfl

end GardenAdmin
