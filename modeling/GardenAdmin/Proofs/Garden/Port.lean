import GardenAdmin.Proofs.Garden.Wire
import GardenAdmin.Proofs.Json.Integer
import GardenAdmin.Proofs.Wire.Slot

/-!
# Which JSON values are ports

A port is a 64-bit integer literal, or a string that holds such an integer between blanks; `null`
and a blank string are no port, and nothing else is accepted (`portDecoder_eq_ok_iff`). What stands
around a port is read as it is without one, so this tells which documents of an entry point decode,
and to what (`entry_points_read_ports`).
-/

namespace GardenAdmin

open Json Wire
open Text (WritesInteger)

/-- The JSON text `cs` of the document `d` stands for the port, or for none. -/
inductive SpellsPort (cs : List Char) : Doc → Option Int → Prop
  | null : SpellsPort cs .null none
  | blank {s : String} (blank : ∀ c ∈ s.toList, Text.isBlank c) :
    SpellsPort cs (.string (some s)) none
  | literal {m : Option Number} {p : Int} (writes : WritesLiteral (skipSpace cs) p)
    (range : -2 ^ 63 ≤ p ∧ p < 2 ^ 63) : SpellsPort cs (.number m) (some p)
  | text {s : String} {p : Int} (writes : WritesInteger (Text.trim s).toList p)
    (range : -2 ^ 63 ≤ p ∧ p < 2 ^ 63) : SpellsPort cs (.string (some s)) (some p)

section

variable {room : Nat} {cs : List Char} {d : Doc} {s : String} {p : Int} {port : Option Int}

theorem isInt64_iff : IsInt64 p ↔ -2 ^ 63 ≤ p ∧ p < 2 ^ 63 :=
  Text.int64Range?_eq_some_iff.trans (and_iff_right rfl)

theorem inRange_of_int64 (range : -2 ^ 63 ≤ p ∧ p < 2 ^ 63) : InRange p :=
  (isInt64_iff.2 range).inRange

/-! ## Strings -/

/-- The integer that is read of a text that is not blank. -/
theorem portDecoder_string (visible : Text.trim s ≠ "") (room : Nat) :
    portDecoder room (.string (some s)) =
      (Text.int64? (Text.trim s)).elim (.error (.invalidPort (Text.trim s))) (.ok ∘ some) :=
  if_neg visible

theorem portDecoder_blank (blank : Text.trim s = "") (room : Nat) :
    portDecoder room (.string (some s)) = .ok none :=
  if_pos blank

theorem not_writesInteger_nil : ¬WritesInteger [] p := fun writes => writes.visible.1 rfl

theorem portDecoder_string_eq_ok_iff :
    portDecoder room (.string (some s)) = .ok port ↔ SpellsPort cs (.string (some s)) port := by
  by_cases blank : Text.trim s = ""
  · rw [portDecoder_blank blank, Except.ok.injEq]
    constructor
    · rintro rfl
      exact .blank (Text.trim_eq_empty_iff.1 blank)
    · intro spells
      cases spells with
      | blank => rfl
      | text writes =>
        rw [blank] at writes
        exact absurd writes not_writesInteger_nil
  · rw [portDecoder_string blank]
    constructor
    · intro read
      cases value : Text.int64? (Text.trim s) with
      | none =>
        rw [value] at read
        cases read
      | some p =>
        rw [value] at read
        cases read
        obtain ⟨writes, range⟩ := Text.int64?_eq_some_iff.1 value
        exact .text writes range
    · intro spells
      cases spells with
      | blank visible => exact absurd (Text.trim_eq_empty_iff.2 visible) blank
      | text writes range =>
        rw [Text.int64?_eq_some_iff.2 ⟨writes, range⟩]
        rfl

/-! ## Any JSON value -/

theorem int64_number_eq_ok_iff {m : Option Number} : Decoder.int64 room (.number m) = .ok p ↔
    m = some (.int p) ∧ -2 ^ 63 ≤ p ∧ p < 2 ^ 63 := by
  constructor
  · intro read
    unfold Decoder.int64 at read
    split at read
    next n same =>
      cases same
      cases value : Text.int64Range? n with
      | none =>
        rw [value] at read
        cases read
      | some k =>
        rw [value] at read
        cases read
        obtain ⟨rfl, range⟩ := Text.int64Range?_eq_some_iff.1 value
        exact ⟨rfl, range⟩
    next => cases read
  · rintro ⟨rfl, range⟩
    rw [Decoder.int64, Text.int64Range?_eq_some_iff.2 ⟨rfl, range⟩]
    rfl

theorem portDecoder_number_eq_ok_iff {m : Option Number} (spells : Spells cs (.number m)) :
    portDecoder room (.number m) = .ok port ↔ SpellsPort cs (.number m) port := by
  -- The document keeps the number and not how it was written; the literal is still in the text.
  obtain ⟨l, literal, rfl⟩ := spells.exists_literal
  have stands {p : Int} := number?_eq_int_iff_writesLiteral (p := p) literal
  have integer : portDecoder room (.number l.number?) =
      some <$> Decoder.int64 room (.number l.number?) := rfl
  rw [integer, map_eq_ok_iff]
  constructor
  · rintro ⟨p, read, rfl⟩
    obtain ⟨value, range⟩ := int64_number_eq_ok_iff.1 read
    exact .literal (stands.1 value).1 range
  · intro port
    cases port with
    | literal writes range =>
      have value := stands.2 ⟨writes, inRange_of_int64 range⟩
      exact ⟨_, int64_number_eq_ok_iff.2 ⟨value, range⟩, rfl⟩

/-- A JSON value is read as a port exactly if its text stands for it. -/
theorem portDecoder_eq_ok_iff (spells : Spells cs d) :
    portDecoder room d = .ok port ↔ SpellsPort cs d port := by
  cases d with
  | null =>
    constructor
    · rintro ⟨⟩
      exact .null
    · rintro ⟨⟩
      rfl
  | string s =>
    cases s with
    | none => constructor <;> rintro ⟨⟩
    | some s => exact portDecoder_string_eq_ok_iff
  | number m => exact portDecoder_number_eq_ok_iff spells
  | bool | array | object | broken => constructor <;> rintro ⟨⟩

/-- A string that is neither blank nor an integer is named in the error, without the blanks. -/
theorem portDecoder_invalid (visible : ∃ c ∈ s.toList, Text.isBlank c = false)
    (other : ∀ p, WritesInteger (Text.trim s).toList p → ¬(-2 ^ 63 ≤ p ∧ p < 2 ^ 63)) (room : Nat) :
    portDecoder room (.string (some s)) = .error (.invalidPort (Text.trim s)) := by
  have some : Text.trim s ≠ "" := by
    obtain ⟨c, mem, visible⟩ := visible
    intro empty
    have blank := Text.trim_eq_empty_iff.1 empty c mem
    rw [visible] at blank
    cases blank
  rw [portDecoder_string some]
  cases value : Text.int64? (Text.trim s) with
  | none => rfl
  | some p =>
    obtain ⟨writes, range⟩ := Text.int64?_eq_some_iff.1 value
    exact absurd range (other p writes)

/-- The number and any string with the integer between blanks are read alike. -/
theorem portDecoder_spellings {cs front back : List Char} (writes : WritesInteger cs p)
    (range : -2 ^ 63 ≤ p ∧ p < 2 ^ 63) (blankFront : ∀ c ∈ front, Text.isBlank c)
    (blankBack : ∀ c ∈ back, Text.isBlank c) (room : Nat) :
    portDecoder room (.string (some (.ofList (front ++ cs ++ back)))) =
      portDecoder room (.number (some (.int p))) := by
  have number : portDecoder room (.number (some (.int p))) = .ok (some p) :=
    (carries_port room (isInt64_iff.2 range)).reads
  have text : SpellsPort [] (.string (some (.ofList (front ++ cs ++ back)))) (some p) := by
    refine .text ?_ range
    rwa [writes.trim_ofList blankFront blankBack, String.toList_ofList]
  exact (portDecoder_string_eq_ok_iff.2 text).trans number.symm

end

/-! ## Structures with a port -/

/-- The slot of the port: the only member of the name, or the second item. -/
def Wire.Slot.IsPort : Slot → Prop
  | .member before key after => key = "port" ∧ ∀ m ∈ before ++ after, m.1 ≠ some "port"
  | .item before _ => before.length = 1

/-- Which documents decode, and to which port. -/
structure ReadsPort {σ : Type} (decode : Decoder σ) (toValue : σ → Value) (port : σ → Option Int)
    (setPort : Option Int → σ → σ) : Prop where
  /-- Where there is no document for the port, there is no port. -/
  absent : ∀ {room d s}, decode room d = .ok s → inPlace? "port" 1 d = none → port s = none
  /-- In a document that decodes without it, a text in the slot gives the port that it stands for,
  and changes nothing else. -/
  exact : ∀ {room} {slot : Slot} {cs d s₀}, slot.IsPort → Spells cs d →
    decode room slot.vacant = .ok s₀ →
    ∀ s, decode room (slot.fill d) = .ok s ↔ ∃ p, SpellsPort cs d p ∧ s = setPort p s₀
  /-- A document that decodes also decodes without its port. -/
  vacated : ∀ {room} {slot : Slot} {d s}, slot.IsPort → decode room (slot.fill d) = .ok s →
    ∃ s₀, decode room slot.vacant = .ok s₀
  /-- A string that is neither blank nor an integer is named, trimmed. -/
  named : ∀ {room} {slot : Slot} {t s₀}, slot.IsPort → decode room slot.vacant = .ok s₀ →
    (∃ c ∈ t.toList, Text.isBlank c = false) →
    (∀ p, WritesInteger (Text.trim t).toList p → ¬(-2 ^ 63 ≤ p ∧ p < 2 ^ 63)) →
    decode room (slot.fill (.string (some t))) = .error (.invalidPort (Text.trim t))
  /-- The number and the strings of one integer are read alike, whatever the blanks around it. -/
  alike : ∀ {room} {slot : Slot} {p cs front back}, slot.IsPort → WritesInteger cs p →
    -2 ^ 63 ≤ p ∧ p < 2 ^ 63 → (∀ c ∈ front, Text.isBlank c) → (∀ c ∈ back, Text.isBlank c) →
    decode room (slot.fill (.string (some (.ofList (front ++ cs ++ back))))) =
      decode room (slot.fill (.number (some (.int p))))
  /-- What was decoded is encoded as something that decodes to the same. -/
  again : ∀ {room d s}, decode room d = .ok s → Decoder.text decode (toValue s).compact = .ok s

section

variable {σ : Type} {l : Layout σ} {toValue : σ → Value} {port : σ → Option Int}
  {setPort : Option Int → σ → σ} {first : FieldLayout σ} {after : List (FieldLayout σ)}

theorem hasSlot_of_isPort {slot : Slot}
    (place : l.fields = first :: portField port setPort :: after) (own : slot.IsPort) :
    l.HasSlot (portField port setPort) slot := by
  cases slot with
  | member before key after =>
    obtain ⟨rfl, others⟩ := own
    refine ⟨rfl, fun m mem key name => ?_⟩
    have ne : key ≠ "port" := fun same => others m mem (name.trans (congrArg some same))
    simpa [FieldLayout.answersTo, portField] using ne
  | item before _ => exact ⟨[first], after, place, own.symm⟩

/-- What it takes to read a port: it is the second field, only it sets the port, and what has a port
in the range is written so that it reads back. -/
theorem readsPort_of_owns (owns : l.Owns (portField port setPort) portDecoder setPort)
    (place : l.fields = first :: portField port setPort :: after)
    (getSet : ∀ p s, port (setPort p s) = p) (setGet : ∀ s, setPort (port s) s = s)
    (blank : port l.blank = none)
    (carries : ∀ s, IsPort (port s) → Carries l.decoder maxDepth (toValue s) s) :
    ReadsPort l.decoder toValue port setPort := by
  have comes {room : Nat} {d : Doc} {s : σ} (done : l.decoder room d = .ok s) :
      Comes portDecoder (room - 1) (port l.blank) (inPlace? "port" 1 d) (port s) :=
    (owns.isolates rfl getSet setGet _).of_decoder [first] place done
  have own {slot : Slot} (isPort : slot.IsPort) : l.HasSlot (portField port setPort) slot :=
    hasSlot_of_isPort place isPort
  have inRange {room : Nat} {d : Doc} {s : σ} (done : l.decoder room d = .ok s) :
      IsPort (port s) := by
    have comes := comes done
    cases given : inPlace? "port" 1 d with
    | none =>
      rw [given, blank] at comes
      rw [show port s = none from comes]
      exact isPort_none
    | some d' =>
      rw [given] at comes
      exact isPort_of_portDecoder comes
  refine {
    absent := fun done absent => ?absent
    exact := fun isPort spells vacant s => ?exact
    vacated := fun isPort done => ?vacated
    named := fun isPort vacant visible other => ?named
    alike := fun isPort writes range blankFront blankBack => ?alike
    again := fun {room d s} done => (carries s (inRange done)).text_compact }
  case absent =>
    have comes := comes done
    rw [absent, blank] at comes
    exact comes
  case exact =>
    rw [(owns.decoder_fill (own isPort) (fun _ => rfl) _ _).1 _ vacant, map_eq_ok_iff]
    exact exists_congr fun p => and_congr (portDecoder_eq_ok_iff spells) eq_comm
  case vacated => exact (owns.decoder_fill (own isPort) (fun _ => rfl) _ _).2 _ done
  case named =>
    rw [(owns.decoder_fill (own isPort) (fun _ => rfl) _ _).1 _ vacant,
      portDecoder_invalid visible other]
    rfl
  case alike =>
    exact owns.decoder_fill_congr (own isPort)
      (portDecoder_spellings writes range blankFront blankBack) _

end

namespace HttpParams

theorem owns_port : layout.Owns (portField port fun v h => { h with port := v }) portDecoder
    fun v h => { h with port := v } where
  mem := .tail _ (.head _)
  named := by decide
  answers := Layout.find?_of_answersTo (by decide) (.tail _ (.head _)) rfl
  optional := rfl
  reads := rfl
  others f mem other := by
    simp only [layout, List.mem_cons, List.not_mem_nil, or_false] at mem
    rcases mem with rfl | rfl | rfl | rfl | rfl | rfl | rfl | rfl
    case inr.inl => exact absurd rfl other
    all_goals exact commutes_of_read rfl fun _ _ _ => rfl
  overwrites _ _ _ := rfl

end HttpParams

namespace Stomp

variable {η : Type} (write : η → Value) (ofRow : HeaderRow → η)

theorem owns_port : (layout write ofRow).Owns (portField port fun v s => { s with port := v })
    portDecoder fun v s => { s with port := v } where
  mem := .tail _ (.head _)
  named := isWellNamed write ofRow
  answers := Layout.find?_of_answersTo (isWellNamed write ofRow) (.tail _ (.head _)) rfl
  optional := rfl
  reads := rfl
  others f mem other := by
    simp only [layout, List.mem_cons, List.not_mem_nil, or_false] at mem
    rcases mem with rfl | rfl | rfl | rfl | rfl | rfl | rfl | rfl
    case inr.inl => exact absurd rfl other
    all_goals exact commutes_of_read rfl fun _ _ _ => rfl
  overwrites _ _ _ := rfl

end Stomp

/-- The port of an HTTP entry point, of STOMP parameters and of a STOMP form is read by one
grammar. -/
theorem entry_points_read_ports :
    ReadsPort HttpParams.decoder HttpParams.toValue HttpParams.port
      (fun port h => { h with port := port }) ∧
    ReadsPort StompParams.decoder StompParams.toValue Stomp.port
      (fun port s => { s with port := port }) ∧
    ReadsPort StompForm.decoder StompForm.toValue Stomp.port
      (fun port s => { s with port := port }) := by
  refine ⟨?_, ?_, ?_⟩
  · exact readsPort_of_owns HttpParams.owns_port rfl (fun _ _ => rfl) (fun _ => rfl) rfl
      fun _ => HttpParams.carries 126
  · exact readsPort_of_owns (Stomp.owns_port _ _) rfl (fun _ _ => rfl) (fun _ => rfl) rfl
      fun _ => StompParams.carries 124
  · exact readsPort_of_owns (Stomp.owns_port _ _) rfl (fun _ _ => rfl) (fun _ => rfl) rfl
      fun _ => StompForm.carries 124

/-- A sign, zeros and blanks are no matter; a fraction is. -/
theorem entry_points_read_ports_padded :
    let slot : Slot := .member [(some "host", .string (some "pi"))] "port" []
    HttpParams.decoder 1 (slot.fill (.string (some " +0080 "))) =
      .ok { host := some "pi", port := some 80 } ∧
    HttpParams.decoder 1 (slot.fill (.string (some " 80.0 "))) = .error (.invalidPort "80.0") := by
  intro slot
  have isPort : slot.IsPort := ⟨rfl, by decide⟩
  have vacant : HttpParams.decoder 1 slot.vacant = .ok { host := some "pi" } := rfl
  obtain ⟨http, -⟩ := entry_points_read_ports
  constructor
  · have spells : Spells (Value.string " +0080 ").compactChars (.string (some " +0080 ")) :=
      Value.prints_string _
    have trimmed : (Text.trim " +0080 ").toList = '+' :: ['0', '0', '8', '0'] := by decide
    have writes : WritesInteger (Text.trim " +0080 ").toList (80 : Nat) := by
      rw [trimmed]
      exact .plus ⟨by decide, List.all_eq_true.1 rfl, rfl⟩
    exact (http.exact isPort spells vacant _).2 ⟨some 80, .text writes (by decide), rfl⟩
  · have trimmed : Text.trim " 80.0 " = "80.0" := by decide
    have none : Text.int64? "80.0" = none := by decide
    refine (http.named isPort vacant ⟨'8', by decide, rfl⟩ fun p writes range => ?_).trans ?_
    · rw [trimmed] at writes
      exact nomatch none.symm.trans (Text.int64?_eq_some_iff.2 ⟨writes, range⟩)
    · rw [trimmed]

end GardenAdmin
