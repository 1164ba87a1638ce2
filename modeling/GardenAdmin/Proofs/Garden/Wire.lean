import GardenAdmin.Garden.Form
import GardenAdmin.Proofs.Wire.Layout

/-!
# Connections, forms and records on the wire

Whatever spelling a connection was read from, it is written in one that reads as the same connection
(`ConnectionParams.carries`, `Form.carries`): a port that was read is an integer of 64 bits, and
nothing else could go wrong. A record keeps its members of unknown name as the document gives them
(`Garden.members?_of_readMembers`), so they do not get in the way of the known ones
(`Garden.carries`).
-/

namespace GardenAdmin

open Json Wire

/-! ## Ports, texts and switches -/

/-- If there is a port, it is an integer of 64 bits. -/
def IsPort (port : Option Int) : Prop := ∀ n, port = some n → IsInt64 n

theorem isPort_none : IsPort none := by
  rintro n ⟨⟩

theorem isInt64_of_int64? {s : String} {n : Int} (read : Text.int64? s = some n) : IsInt64 n := by
  unfold Text.int64? at read
  split at read
  all_goals
    obtain ⟨m, -, range⟩ := Option.bind_eq_some_iff.1 read
    exact isInt64_of_int64Range? range

theorem isInt64_of_decoder {room : Nat} {d : Doc} {n : Int} (read : Decoder.int64 room d = .ok n) :
    IsInt64 n := by
  unfold Decoder.int64 at read
  split at read
  next m =>
    cases range : Text.int64Range? m with
    | none =>
      rw [range] at read
      cases read
    | some k =>
      rw [range] at read
      cases read
      exact isInt64_of_int64Range? range
  next => cases read

theorem isPort_of_portDecoder {room : Nat} {d : Doc} {port : Option Int}
    (read : portDecoder room d = .ok port) : IsPort port := by
  rintro n rfl
  unfold portDecoder at read
  split at read
  next => cases read
  next s =>
    dsimp only at read
    split at read
    next => cases read
    next =>
      cases value : Text.int64? (Text.trim s) with
      | none =>
        rw [value] at read
        cases read
      | some k =>
        rw [value] at read
        cases read
        exact isInt64_of_int64? value
  next =>
    obtain ⟨k, value, e⟩ := map_eq_ok_iff.1 read
    cases e
    exact isInt64_of_decoder value

theorem carries_port (room : Nat) {n : Int} (range : IsInt64 n) :
    Carries portDecoder room (.number (.int n)) (some n) := by
  refine ⟨Value.prints_int range.inRange, ?_⟩
  rw [Value.toDoc, portDecoder, ← Value.toDoc, (carries_int64 room range).reads]
  · rfl
  all_goals
    intros
    contradiction

namespace Wire.Rebuilds

variable {σ : Type} {room : Nat} {s t : σ} {fs : List (FieldLayout σ)} {name : String}

theorem text {get : σ → Option String} {set : Option String → σ → σ} (blank : set none t = t)
    (rest : Rebuilds room s fs (set (get s) t)) :
    Rebuilds room s (textField name get set :: fs) t :=
  .optional (fun a _ => ⟨carries_string room a, string_ne_null a⟩) blank rest

theorem flag {get : σ → Option Bool} {set : Option Bool → σ → σ} (blank : set none t = t)
    (rest : Rebuilds room s fs (set (get s) t)) :
    Rebuilds room s (flagField name get set :: fs) t :=
  .optional (fun a _ => ⟨carries_bool room a, bool_ne_null a⟩) blank rest

theorem port {get : σ → Option Int} {set : Option Int → σ → σ} (port : IsPort (get s))
    (blank : set none t = t) (rest : Rebuilds room s fs (set (get s) t)) :
    Rebuilds room s (portField get set :: fs) t := by
  cases value : get s with
  | none =>
    rw [value, blank] at rest
    exact .absent rfl (congrArg (Option.map _) value) rest
  | some n =>
    rw [value] at rest
    exact .present (congrArg (Option.map _) value)
      (carries_map (carries_port room (port n value))) rest

end Wire.Rebuilds

/-! ## HTTP -/

namespace HttpParams

theorem rebuilds (room : Nat) {h : HttpParams} (port : IsPort h.port) :
    Rebuilds room h layout.fields layout.blank :=
  .text rfl <| .port port rfl <| .text rfl <| .text rfl <| .flag rfl <| .flag rfl <| .text rfl <|
    .text rfl .done

theorem carries (room : Nat) {h : HttpParams} (port : IsPort h.port) :
    Carries decoder (room + 1) h.toValue h :=
  Layout.carries_toValue (by decide) (rebuilds room port)

theorem isPort_of_decoder {room : Nat} {d : Doc} (proper : d.Proper) {h : HttpParams}
    (read : decoder room d = .ok h) : IsPort h.port := by
  refine Layout.decoder_induction (P := fun h => IsPort h.port) isPort_none ?_ proper read
  intro f mem
  simp only [layout, List.mem_cons, List.not_mem_nil, or_false] at mem
  rcases mem with rfl | rfl | rfl | rfl | rfl | rfl | rfl | rfl
  case inr.inl => exact keeps_of_read rfl fun _ _ _ read _ _ => isPort_of_portDecoder read
  all_goals exact keeps_of_read rfl fun _ _ _ _ _ h => h

end HttpParams

/-! ## STOMP -/

theorem StompSsl.carries (room : Nat) (s : StompSsl) : Carries decoder (room + 1) s.toValue s :=
  Layout.carries_toValue (by decide) (.flag rfl <| .text rfl <| .text rfl <| .text rfl .done)

theorem HeaderRow.carries (room : Nat) (r : HeaderRow) : Carries decoder (room + 1) r.toValue r :=
  Layout.carries_toValue (by decide) (.text rfl <| .text rfl .done)

/-- A header is read as a row, since either side of it could have been left out. -/
theorem StompHeader.carries (room : Nat) (h : StompHeader) :
    Carries HeaderRow.decoder (room + 1) h.toValue ⟨some h.key, some h.value⟩ :=
  HeaderRow.carries room ⟨some h.key, some h.value⟩

namespace Stomp

variable {η : Type} {write : η → Value} {ofRow : HeaderRow → η} {row : η → HeaderRow} {room : Nat}

theorem isWellNamed (write : η → Value) (ofRow : HeaderRow → η) :
    IsWellNamed (layout write ofRow).fields := by
  simp [IsWellNamed, layout, textField, portField, headersField, FieldLayout.optional,
    FieldLayout.answersTo]

theorem carries_headers (rows : ∀ h, Carries HeaderRow.decoder room (write h) (row h))
    (hs : List η) :
    Carries HeaderRow.rowsDecoder (room + 1) (.array (hs.map write)) (hs.map row) := by
  have list : Carries (Decoder.list HeaderRow.decoder) (room + 1) (.array (hs.map write))
    (hs.map row) := carries_list fun h _ => rows h
  exact ⟨list.prints, list.reads⟩

/-- Headers are written as pairs, and read as rows that stand for them. -/
theorem rebuilds (rows : ∀ h, Carries HeaderRow.decoder (room + 1) (write h) (row h))
    (fromRow : ∀ h, ofRow (row h) = h) {s : Stomp η} (port : IsPort s.port) :
    Rebuilds (room + 2) s (layout write ofRow).fields (layout write ofRow).blank := by
  have headers : (s.headers.map row).map ofRow = s.headers := by
    simp [Function.comp_def, fromRow]
  have last : Rebuilds (room + 2) s [] { s with headers := (s.headers.map row).map ofRow } := by
    rw [headers]
    exact .done
  exact .text rfl <| .port port rfl <| .text rfl <| .text rfl <| .text rfl <| .text rfl <|
    .optional (fun ssl _ => ⟨ssl.carries (room + 1), Layout.toValue_ne_null _ ssl⟩) rfl <|
    .present rfl (Rebuilds.carries_map (carries_headers rows s.headers)) last

theorem isPort_of_decoder {room : Nat} {d : Doc} (proper : d.Proper) {s : Stomp η}
    (read : (layout write ofRow).decoder room d = .ok s) : IsPort s.port := by
  refine Layout.decoder_induction (P := fun s => IsPort s.port) isPort_none ?_ proper read
  intro f mem
  simp only [layout, List.mem_cons, List.not_mem_nil, or_false] at mem
  rcases mem with rfl | rfl | rfl | rfl | rfl | rfl | rfl | rfl
  case inr.inl => exact keeps_of_read rfl fun _ _ _ read _ _ => isPort_of_portDecoder read
  all_goals exact keeps_of_read rfl fun _ _ _ _ _ h => h

end Stomp

theorem StompParams.carries (room : Nat) {s : StompParams} (port : IsPort s.port) :
    Carries decoder (room + 3) s.toValue s :=
  Layout.carries_toValue (by decide)
    (Stomp.rebuilds (fun h => h.carries room) (fun _ => rfl) port)

theorem StompForm.carries (room : Nat) {s : StompForm} (port : IsPort s.port) :
    Carries decoder (room + 3) s.toValue s :=
  Layout.carries_toValue (by decide)
    (Stomp.rebuilds (fun r => r.carries room) (fun _ => rfl) port)

/-! ## Connections and forms -/

theorem ConnectionType.carries (room : Nat) (t : ConnectionType) :
    Carries decoder room t.toValue t :=
  ⟨Value.prints_string t.name, by cases t <;> rfl⟩

/-- Both blocks have a port that can be written, if they have one. -/
structure HasPorts {η : Type} (http : Option HttpParams) (stomp : Option (Stomp η)) : Prop where
  http : ∀ h, http = some h → IsPort h.port
  stomp : ∀ s, stomp = some s → IsPort s.port

namespace HasPorts

variable {η : Type} {http : Option HttpParams} {stomp : Option (Stomp η)} {room : Nat} {d : Doc}

theorem none : HasPorts (none : Option HttpParams) (none : Option (Stomp η)) := by
  constructor <;> rintro _ ⟨⟩

/-- Whichever HTTP block is read takes the place of the one before. -/
theorem read_http (ports : HasPorts http stomp) (proper : d.Proper) {http' : Option HttpParams}
    (read : HttpParams.decoder.optional room d = .ok http') : HasPorts http' stomp where
  http _ found := HttpParams.isPort_of_decoder proper (eq_some_of_optional (found ▸ read))
  stomp := ports.stomp

/-- Whichever STOMP block is read takes the place of the one before. -/
theorem read_stomp (ports : HasPorts http stomp) (proper : d.Proper) {write : η → Value}
    {ofRow : HeaderRow → η} {stomp' : Option (Stomp η)}
    (read : (Stomp.layout write ofRow).decoder.optional room d = .ok stomp') :
    HasPorts http stomp' where
  http := ports.http
  stomp _ found := Stomp.isPort_of_decoder proper (eq_some_of_optional (found ▸ read))

end HasPorts

namespace ConnectionParams

theorem carries (room : Nat) {p : ConnectionParams} (ports : HasPorts p.http p.stomp) :
    Carries decoder (room + 4) p.toValue p :=
  Layout.carries_toValue (by decide) <|
    .optional (fun h found =>
      ⟨HttpParams.carries (room + 2) (ports.http h found), Layout.toValue_ne_null _ h⟩) rfl <|
    .optional (fun s found =>
      ⟨StompParams.carries room (ports.stomp s found), Layout.toValue_ne_null _ s⟩) rfl .done

theorem hasPorts_of_decoder {room : Nat} {d : Doc} (proper : d.Proper) {p : ConnectionParams}
    (read : decoder room d = .ok p) : HasPorts p.http p.stomp := by
  refine Layout.decoder_induction (P := fun p => HasPorts p.http p.stomp) .none ?_ proper read
  intro f mem
  simp only [layout, List.mem_cons, List.not_mem_nil, or_false] at mem
  rcases mem with rfl | rfl
  · exact keeps_of_read rfl fun _ _ proper read _ ports => ports.read_http proper read
  · exact keeps_of_read rfl fun _ _ proper read _ ports => ports.read_stomp proper read

end ConnectionParams

namespace Form

theorem carries (room : Nat) {f : Form} (ports : HasPorts f.http f.stomp) :
    Carries decoder (room + 4) f.toValue f :=
  Layout.carries_toValue (by decide) <|
    .nullable (fun t _ => ⟨t.carries (room + 3), string_ne_null t.name⟩) <|
    .optional (fun h found =>
      ⟨HttpParams.carries (room + 2) (ports.http h found), Layout.toValue_ne_null _ h⟩) rfl <|
    .optional (fun s found =>
      ⟨StompForm.carries room (ports.stomp s found), Layout.toValue_ne_null _ s⟩) rfl .done

theorem hasPorts_of_decoder {room : Nat} {d : Doc} (proper : d.Proper) {f : Form}
    (read : decoder room d = .ok f) : HasPorts f.http f.stomp := by
  refine Layout.decoder_induction (P := fun f => HasPorts f.http f.stomp) .none ?_ proper read
  intro f mem
  simp only [layout, List.mem_cons, List.not_mem_nil, or_false] at mem
  rcases mem with rfl | rfl | rfl
  · exact keeps_of_read rfl fun _ _ _ _ _ ports => ports
  · exact keeps_of_read rfl fun _ _ proper read _ ports => ports.read_http proper read
  · exact keeps_of_read rfl fun _ _ proper read _ ports => ports.read_stomp proper read

end Form

/-! ## Records -/

namespace Garden

/-- The names of the known fields. -/
def knownNames : List String := layout.fields.map (·.name)

theorem find?_eq_none_iff {key : String} :
    layout.fields.find? (·.answersTo key) = none ↔ key ∉ knownNames := by
  simp [layout, knownNames, FieldLayout.answersTo, FieldLayout.nullable, FieldLayout.plain,
    textField, FieldLayout.optional]

example : knownNames = ["id", "name", "status", "connection_type", "connection_params"] := rfl

/-- A member that no known field answers to. -/
def isUnknown (m : Option String × Doc) : Bool := m.1.all (!knownNames.contains ·)

variable {room : Nat} {g : Garden}

/-- No known field touches the members of unknown name. -/
theorem keeps_extra (extra : List (String × Value)) :
    ∀ f ∈ layout.fields, f.Keeps room fun g => g.extra = extra := by
  intro f mem
  simp only [layout, List.mem_cons, List.not_mem_nil, or_false] at mem
  rcases mem with rfl | rfl | rfl | rfl | rfl
  all_goals exact keeps_of_read rfl fun _ _ _ _ _ h => h

section

variable {key : String} {d : Doc} {p q : Layout.Progress Garden}

theorem extra_of_known (proper : d.Proper) (known : key ∈ knownNames)
    (read : layout.readMember keepExtra room p (some key, d) = .ok q) :
    q.state.extra = p.state.extra := by
  obtain ⟨_, set, ⟨⟩, ⟨f, found, -, done, rfl⟩ | ⟨none, -⟩⟩ := Layout.readMember_cases read
  · exact keeps_extra p.state.extra f (List.mem_of_find?_eq_some found) d set proper done p.state rfl
  · exact absurd known (find?_eq_none_iff.1 none)

theorem exists_value_of_unknown (unknown : key ∉ knownNames)
    (read : layout.readMember keepExtra room p (some key, d) = .ok q) :
    ∃ v, d.value? room = some v ∧ q.state.extra = Value.insertMember key v p.state.extra := by
  obtain ⟨_, set, ⟨⟩, ⟨f, found, -⟩ | ⟨-, done, rfl⟩⟩ := Layout.readMember_cases read
  · rw [find?_eq_none_iff.2 unknown] at found
    cases found
  · obtain ⟨v, value, e⟩ := bind_eq_ok_iff.1 done
    cases e
    exact ⟨v, value_eq_ok_iff.1 value, rfl⟩

end

/-- Members of unknown name are read as those of any object. -/
theorem members?_of_foldlM {ms : List (Option String × Doc)} (proper : ∀ m ∈ ms, m.2.Proper)
    {p p' : Layout.Progress Garden}
    (read : ms.foldlM (layout.readMember keepExtra room) p = .ok p') :
    Doc.members? room p.state.extra (ms.filter isUnknown) = some p'.state.extra := by
  induction ms generalizing p with
  | nil =>
    cases read
    rfl
  | cons m ms ih =>
    rw [List.foldlM_cons] at read
    obtain ⟨q, first, others⟩ := bind_eq_ok_iff.1 read
    have rest := ih (fun m' mem => proper m' (.tail _ mem)) others
    obtain ⟨_ | key, d⟩ := m
    · cases first
    by_cases known : key ∈ knownNames
    · rw [List.filter_cons_of_neg (by simpa [isUnknown] using known),
        ← extra_of_known (proper _ (.head _)) known first]
      exact rest
    · obtain ⟨v, value, extra⟩ := exists_value_of_unknown known first
      rw [extra] at rest
      rw [List.filter_cons_of_pos (by simpa [isUnknown] using known), Doc.members?, value]
      exact rest

theorem exists_of_decoder {d : Doc} (read : decoder (room + 1) d = .ok g) :
    ∃ ms, d = .object ms ∧ layout.readMembers keepExtra room ms = .ok g := by
  unfold decoder at read
  split at read
  next ms => exact ⟨ms, rfl, read⟩
  next => cases read

theorem members?_of_readMembers {ms : List (Option String × Doc)} (proper : ∀ m ∈ ms, m.2.Proper)
    (read : layout.readMembers keepExtra room ms = .ok g) :
    Doc.members? room [] (ms.filter isUnknown) = some g.extra := by
  obtain ⟨p, members, e⟩ := bind_eq_ok_iff.1 read
  split at e
  next => cases e
  next =>
    cases e
    exact members?_of_foldlM proper members

/-- The members of unknown name are values of their own, with names of their own. -/
structure HasOwnExtra (room : Nat) (g : Garden) : Prop where
  unknown : ∀ m ∈ g.extra, m.1 ∉ knownNames
  distinct : (g.extra.map Prod.fst).Nodup
  canonical : ∀ m ∈ g.extra, m.2.Canonical room

theorem hasOwnExtra_of_readMembers {ms : List (Option String × Doc)}
    (proper : ∀ m ∈ ms, m.2.Proper) (read : layout.readMembers keepExtra room ms = .ok g) :
    g.HasOwnExtra room := by
  have none : (([] : List (String × Value)).map Prod.fst).Nodup := List.nodup_nil
  obtain ⟨distinct, all⟩ := forall_of_members?
    (P := fun m => m.1 ∉ knownNames ∧ m.2.Canonical room) (fun m mem k v name value => by
      obtain ⟨mem, unknown⟩ := List.mem_filter.1 mem
      rw [isUnknown, name] at unknown
      exact ⟨by simpa using unknown, canonical_of_value? (proper m mem) value⟩)
    none (List.forall_mem_nil _) (members?_of_readMembers proper read)
  exact ⟨fun m mem => (all m mem).1, distinct, fun m mem => (all m mem).2⟩

theorem hasPorts_of_readMembers {ms : List (Option String × Doc)}
    (proper : ∀ m ∈ ms, m.2.Proper) (read : layout.readMembers keepExtra room ms = .ok g) :
    ∀ p, g.connectionParams = some p → HasPorts p.http p.stomp := by
  have blank : ∀ p, layout.blank.connectionParams = some p → HasPorts p.http p.stomp := by
    rintro p ⟨⟩
  refine Layout.readMembers_induction
    (P := fun g => ∀ p, g.connectionParams = some p → HasPorts p.http p.stomp)
    blank ?_ ?_ proper read
  · intro f mem
    simp only [layout, List.mem_cons, List.not_mem_nil, or_false] at mem
    rcases mem with rfl | rfl | rfl | rfl | rfl
    case inr.inr.inr.inr =>
      refine keeps_of_read rfl fun d a proper read g _ => ?_
      rintro p rfl
      exact ConnectionParams.hasPorts_of_decoder proper (eq_some_of_optional read)
    all_goals exact keeps_of_read rfl fun _ _ _ _ _ h => h
  · intro key d set _ done t h
    obtain ⟨v, -, e⟩ := bind_eq_ok_iff.1 done
    cases e
    exact h

/-- No two members of a record that is written have the same name. -/
theorem HasOwnExtra.nodup_members (own : g.HasOwnExtra room) :
    ((layout.members g ++ g.extra).map Prod.fst).Nodup := by
  have known : ((layout.members g).map Prod.fst).Sublist knownNames :=
    map_fst_written_sublist g layout.fields
  have distinct : knownNames.Nodup := by decide
  rw [List.map_append]
  refine (distinct.sublist known).append own.distinct fun name mem extra => ?_
  obtain ⟨m, mem', rfl⟩ := List.mem_map.1 extra
  exact own.unknown m mem' (known.subset mem)

/-- The known fields are put together again whatever the other members are. -/
theorem rebuilds (room : Nat) (ports : ∀ p, g.connectionParams = some p → HasPorts p.http p.stomp) :
    Rebuilds (room + 4) { g with extra := [] } layout.fields layout.blank :=
  .nullable (fun s _ => ⟨carries_string _ s, string_ne_null s⟩) <|
  .plain (carries_string _ g.name) <|
  .text rfl <|
  .nullable (fun t _ => ⟨t.carries _, string_ne_null t.name⟩) <|
  .nullable (fun p found =>
    ⟨p.carries room (ports p found), Layout.toValue_ne_null _ p⟩) .done

/-- After the known members, those of unknown name join the record one by one. -/
theorem foldlM_extra {seen : List String} {before ms : List (String × Value)}
    (unknown : ∀ m ∈ ms, m.1 ∉ knownNames) (distinct : ((before ++ ms).map Prod.fst).Nodup)
    (canonical : ∀ m ∈ ms, m.2.Canonical room) :
    (Value.toDocMembers ms).foldlM (layout.readMember keepExtra room)
        ⟨{ g with extra := before }, seen⟩ =
      .ok ⟨{ g with extra := before ++ ms }, seen⟩ := by
  induction ms generalizing before with
  | nil =>
    rw [List.append_nil]
    rfl
  | cons m ms ih =>
    have new := Value.not_mem_of_nodup distinct
    have read : layout.readMember keepExtra room ⟨{ g with extra := before }, seen⟩
        (some m.1, m.2.toDoc) = .ok ⟨{ g with extra := before ++ [m] }, seen⟩ := by
      simp only [Layout.readMember, find?_eq_none_iff.2 (unknown m (.head _)), keepExtra,
        value_eq_ok_iff.2 (canonical m (.head _)).value?_toDoc]
      rw [← Value.insertMember_of_not_mem new]
      rfl
    have distinctOthers : ((before ++ [m] ++ ms).map Prod.fst).Nodup := by simpa using distinct
    have others := ih (fun m' mem => unknown m' (.tail _ mem)) distinctOthers
      fun m' mem => canonical m' (.tail _ mem)
    rw [List.append_assoc, List.singleton_append] at others
    rw [Value.toDocMembers, List.foldlM_cons, read]
    exact others

theorem carries (room : Nat) (own : g.HasOwnExtra (room + 4))
    (ports : ∀ p, g.connectionParams = some p → HasPorts p.http p.stomp)
    (back : ∀ m ∈ g.extra, ∀ x ∈ m.2.doubles, x.ReadsBack) :
    Carries decoder (room + 5) g.toValue g := by
  have known := rebuilds room ports
  have members : layout.members g = written { g with extra := [] } layout.fields := rfl
  constructor
  · refine Value.prints_object fun m mem => ?_
    rcases List.mem_append.1 mem with mem | mem
    · exact known.prints m mem
    · exact (own.canonical m mem).prints (back m mem)
  · obtain ⟨seen, fold, -, required⟩ := Layout.foldlM_written keepExtra (by decide) known
      (List.Subset.refl _) (by decide) fun _ _ => List.not_mem_nil
    have extra : (Value.toDocMembers g.extra).foldlM (layout.readMember keepExtra (room + 4))
        ⟨{ g with extra := [] }, seen⟩ = .ok ⟨{ g with extra := [] ++ g.extra }, seen⟩ :=
      foldlM_extra own.unknown own.distinct own.canonical
    have below : room + 5 - 1 = room + 4 := rfl
    rw [toValue, Value.toDoc, decoder, if_neg (Nat.succ_ne_zero _), below,
      Value.toDocMembers_append, members]
    refine Layout.readMembers_of_foldlM ?_ (Layout.missing?_of_forall required)
    rw [List.foldlM_append, fold]
    exact extra

end Garden

end GardenAdmin
