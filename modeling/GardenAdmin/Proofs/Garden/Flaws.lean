import GardenAdmin.Proofs.Garden.Rejection

/-!
# The flaws of connection parameters

Parameters are rejected exactly if a block that is there has a flaw, a field that is missing or out
of range. The errors then have one message about each flaw of either block and name no other field
(`ConnectionParams.validate_exactly`).
-/

namespace GardenAdmin

/-! ## Fields that are missing or out of range -/

/-- There is a port, and it is between the bounds. -/
def HasUsablePort (port : Option Int) : Prop := ∃ n ∈ port, 0 < n ∧ n < 65535

/-- What is wrong with a host or with a port. -/
inductive AddressFlaw (host : Option String) (port : Option Int) : (field message : String) → Prop
  | noHost (absent : host = none) : AddressFlaw host port "host" missingData
  | noPort (absent : port = none) : AddressFlaw host port "port" missingData
  | outOfRange {n : Int} (given : port = some n) (outside : ¬(0 < n ∧ n < 65535)) :
    AddressFlaw host port "port" portOutOfRange

/-- What is wrong with the SSL settings of a STOMP block. If they are absent, that is one flaw. -/
inductive SslFlaw (ssl : Option StompSsl) : (field message : String) → Prop
  | noSettings (absent : ssl = none) : SslFlaw ssl "ssl" missingData
  | noSwitch {s : StompSsl} (given : ssl = some s) (absent : s.useSsl = none) :
    SslFlaw ssl "ssl.use_ssl" missingData

namespace ConnectionParams

/-- What is wrong with a field of an entry point that is there. -/
inductive Flaw (p : ConnectionParams) : (entryPoint field message : String) → Prop
  | http {h : HttpParams} {field message : String} (given : p.http = some h)
    (flaw : AddressFlaw h.host h.port field message) : Flaw p httpEntryPoint field message
  | stomp {s : StompParams} {field message : String} (given : p.stomp = some s)
    (flaw : AddressFlaw s.host s.port field message) : Flaw p stompEntryPoint field message
  | ssl {s : StompParams} {field message : String} (given : p.stomp = some s)
    (flaw : SslFlaw s.ssl field message) : Flaw p stompEntryPoint field message

/-- Each block that is there has all that is required of it. -/
structure IsAcceptable (p : ConnectionParams) : Prop where
  http : ∀ h ∈ p.http, h.host.isSome ∧ HasUsablePort h.port
  stomp : ∀ s ∈ p.stomp, s.host.isSome ∧ HasUsablePort s.port ∧ ∃ ssl ∈ s.ssl, ssl.useSsl.isSome

end ConnectionParams

section

variable {host : Option String} {port : Option Int} {ssl : Option StompSsl} {field message : String}

theorem isPort_iff {n : Int} : isPort n ↔ 0 < n ∧ n < 65535 := by
  rw [isPort, Bool.and_eq_true, decide_eq_true_iff, decide_eq_true_iff]

theorem portFaults_eq_nil_iff : portFaults port = [] ↔ HasUsablePort port := by
  cases port with
  | none => simp [portFaults, HasUsablePort]
  | some n => simp [portFaults, HasUsablePort, isPort_iff]

theorem sslFaults_eq_nil_iff : StompSsl.faults ssl = [] ↔ ∃ s ∈ ssl, s.useSsl.isSome := by
  cases ssl with
  | none => simp [StompSsl.faults]
  | some s => cases on : s.useSsl <;> simp [StompSsl.faults, on]

/-- The faults of an address are its flaws. -/
theorem mem_addressFaults_iff : (field, message) ∈ hostFaults host ++ portFaults port ↔
    AddressFlaw host port field message := by
  constructor
  · intro mem
    rcases List.mem_append.1 mem with mem | mem
    · cases host with
      | none =>
        cases List.mem_singleton.1 mem
        exact .noHost rfl
      | some t => cases mem
    · cases port with
      | none =>
        cases List.mem_singleton.1 mem
        exact .noPort rfl
      | some n =>
        rw [portFaults] at mem
        split at mem
        · cases mem
        · next outside =>
          cases List.mem_singleton.1 mem
          exact .outOfRange rfl (mt isPort_iff.2 outside)
  · intro flaw
    cases flaw with
    | noHost absent => exact List.mem_append_left _ (absent ▸ .head _)
    | noPort absent => exact List.mem_append_right _ (absent ▸ .head _)
    | outOfRange given outside =>
      refine List.mem_append_right _ ?_
      rw [given, portFaults, if_neg (mt isPort_iff.1 outside)]
      exact .head _

theorem mem_sslFaults_iff : (field, message) ∈ StompSsl.faults ssl ↔ SslFlaw ssl field message := by
  constructor
  · intro mem
    cases ssl with
    | none =>
      cases List.mem_singleton.1 mem
      exact .noSettings rfl
    | some s =>
      rw [StompSsl.faults] at mem
      split at mem
      · next absent =>
        cases List.mem_singleton.1 mem
        exact .noSwitch rfl (Option.isNone_iff_eq_none.1 absent)
      · cases mem
  · intro flaw
    cases flaw with
    | noSettings absent => exact absent ▸ .head _
    | noSwitch given absent =>
      rw [given, StompSsl.faults, absent]
      exact .head _

/-! No field has two faults. -/

theorem fst_hostFaults_sublist (host : Option String) :
    ((hostFaults host).map Prod.fst).Sublist ["host"] := by
  unfold hostFaults
  split <;> decide

theorem fst_portFaults_sublist (port : Option Int) :
    ((portFaults port).map Prod.fst).Sublist ["port"] := by
  unfold portFaults
  split
  · decide
  · split <;> decide

theorem fst_sslFaults_sublist (ssl : Option StompSsl) :
    ((StompSsl.faults ssl).map Prod.fst).Sublist ["ssl", "ssl.use_ssl"] := by
  unfold StompSsl.faults
  split
  · decide
  · split <;> decide

end

theorem HttpParams.nodup_faults (h : HttpParams) : (h.faults.map Prod.fst).Nodup := by
  have fields : (h.faults.map Prod.fst).Sublist ["host", "port"] := by
    rw [faults, List.map_append]
    exact (fst_hostFaults_sublist h.host).append (fst_portFaults_sublist h.port)
  exact List.Nodup.sublist fields (by decide)

theorem StompParams.nodup_faults (s : StompParams) : (s.faults.map Prod.fst).Nodup := by
  have fields : (s.faults.map Prod.fst).Sublist ["host", "port", "ssl", "ssl.use_ssl"] := by
    rw [Stomp.faults, List.map_append, List.map_append]
    exact ((fst_hostFaults_sublist s.host).append (fst_portFaults_sublist s.port)).append
      (fst_sslFaults_sublist s.ssl)
  exact List.Nodup.sublist fields (by decide)

/-! ## The errors about faults -/

namespace ConfigErrors

variable {name entryPoint field message : String} {faults : List (String × String)}

theorem messages_ofFaults (name entryPoint field : String) (faults : List (String × String)) :
    (ofFaults name faults).messages entryPoint field =
      if name = entryPoint then (faults.filter (·.1 = field)).map (·.2) else [] := by
  rw [ofFaults, messages_ofComplaints]
  -- One complaint more is one message more about its own field and none about another.
  induction faults with
  | nil => exact (ite_self _).symm
  | cons fault faults ih =>
    rw [List.map_cons, Complaint.messagesAbout_cons, ih, List.filter_cons]
    by_cases here : name = entryPoint <;> by_cases this : fault.1 = field <;>
      simp [Complaint.IsAbout, here, this]

theorem filter_field_of_mem (distinct : (faults.map Prod.fst).Nodup)
    (mem : (field, message) ∈ faults) : faults.filter (·.1 = field) = [(field, message)] := by
  induction faults with
  | nil => cases mem
  | cons fault faults ih =>
    obtain ⟨first, distinct⟩ := List.nodup_cons.1 distinct
    rcases List.mem_cons.1 mem with rfl | mem
    · have others : faults.filter (·.1 = field) = [] :=
        List.filter_eq_nil_iff.2 fun fault mem same =>
          first (List.mem_map.2 ⟨fault, mem, of_decide_eq_true same⟩)
      rw [List.filter_cons_of_pos (by simp), others]
    · have other : fault.1 ≠ field := fun same =>
        first (List.mem_map.2 ⟨(field, message), mem, same.symm⟩)
      rw [List.filter_cons_of_neg (by simpa using other), ih distinct mem]

/-- The one message about a field that has a fault. -/
theorem messages_ofFaults_of_mem (distinct : (faults.map Prod.fst).Nodup)
    (mem : (field, message) ∈ faults) :
    (ofFaults entryPoint faults).messages entryPoint field = [message] := by
  rw [messages_ofFaults, if_pos rfl, filter_field_of_mem distinct mem, List.map_singleton]

theorem messages_ofFaults_eq_nil
    (none : entryPoint = name → ∀ message, (field, message) ∉ faults) :
    (ofFaults name faults).messages entryPoint field = [] := by
  rw [messages_ofFaults]
  split
  · next here =>
    refine List.map_eq_nil_iff.2 (List.filter_eq_nil_iff.2 fun fault mem this => ?_)
    obtain rfl := of_decide_eq_true this
    exact none here.symm fault.2 mem
  · rfl

/-- The errors of a check, which are none if it succeeds. -/
def reported {α : Type} : Except ConfigErrors α → ConfigErrors
  | .ok _ => .empty
  | .error e => e

end ConfigErrors

section

variable {β : Type} {faults : β → List (String × String)} {f : β → β} {entryPoint : String}

/-- The errors of a block are about its faults. -/
theorem blockErrors_of_faults (block : Option β) :
    blockErrors (fun b => if (faults b).isEmpty then .ok (f b)
      else .error (ConfigErrors.ofFaults entryPoint (faults b))) block =
      ConfigErrors.ofFaults entryPoint (block.elim [] faults) := by
  cases block with
  | none => rfl
  | some b =>
    rw [blockErrors, Option.map_some, Option.elim_some]
    cases faults b <;> rfl

end

namespace ConnectionParams

open ConfigErrors (ofFaults reported)

variable {p : ConnectionParams} {e : ConfigErrors} {entryPoint field message : String}

theorem isAcceptable_iff : p.IsAcceptable ↔ p.KeepsRules := by
  constructor
  · rintro ⟨http, stomp⟩
    refine ⟨fun h given => ?_, fun s given => ?_⟩
    · obtain ⟨host, port⟩ := http h given
      exact HttpParams.faults_eq_nil_iff.2 ⟨host, portFaults_eq_nil_iff.2 port⟩
    · obtain ⟨host, port, ssl⟩ := stomp s given
      exact StompParams.faults_eq_nil_iff.2
        ⟨host, portFaults_eq_nil_iff.2 port, sslFaults_eq_nil_iff.2 ssl⟩
  · rintro ⟨http, stomp⟩
    refine ⟨fun h given => ?_, fun s given => ?_⟩
    · obtain ⟨host, port⟩ := HttpParams.faults_eq_nil_iff.1 (http h given)
      exact ⟨host, portFaults_eq_nil_iff.1 port⟩
    · obtain ⟨host, port, ssl⟩ := StompParams.faults_eq_nil_iff.1 (stomp s given)
      exact ⟨host, portFaults_eq_nil_iff.1 port, sslFaults_eq_nil_iff.1 ssl⟩

/-- The faults of the HTTP block, if there is one. -/
def httpFaults (p : ConnectionParams) : List (String × String) := p.http.elim [] (·.faults)

/-- The faults of the STOMP block, if there is one. -/
def stompFaults (p : ConnectionParams) : List (String × String) := p.stomp.elim [] (·.faults)

theorem errors_eq (p : ConnectionParams) : p.errors =
    (ofFaults httpEntryPoint p.httpFaults).merge (ofFaults stompEntryPoint p.stompFaults) := by
  have http : blockErrors HttpParams.validate p.http = ofFaults httpEntryPoint p.httpFaults :=
    blockErrors_of_faults p.http
  have stomp : blockErrors StompParams.validate p.stomp = ofFaults stompEntryPoint p.stompFaults :=
    blockErrors_of_faults (f := id) p.stomp
  rw [errors, http, stomp]

theorem nodup_httpFaults (p : ConnectionParams) : (p.httpFaults.map Prod.fst).Nodup := by
  unfold httpFaults
  cases p.http with
  | none => exact List.nodup_nil
  | some h => exact h.nodup_faults

theorem nodup_stompFaults (p : ConnectionParams) : (p.stompFaults.map Prod.fst).Nodup := by
  unfold stompFaults
  cases p.stomp with
  | none => exact List.nodup_nil
  | some s => exact StompParams.nodup_faults s

theorem mem_httpFaults_iff : (field, message) ∈ p.httpFaults ↔
    ∃ h, p.http = some h ∧ AddressFlaw h.host h.port field message := by
  unfold httpFaults
  cases p.http with
  | none => simp
  | some h => simp [HttpParams.faults, mem_addressFaults_iff, -List.mem_append]

theorem mem_stompFaults_iff : (field, message) ∈ p.stompFaults ↔
    ∃ s, p.stomp = some s ∧
      (AddressFlaw s.host s.port field message ∨ SslFlaw s.ssl field message) := by
  unfold stompFaults
  cases p.stomp with
  | none => simp
  | some s =>
    rw [Option.elim_some, Stomp.faults, List.mem_append, mem_addressFaults_iff, mem_sslFaults_iff]
    simp

/-- The flaws are the faults of both blocks. -/
theorem flaw_iff : p.Flaw entryPoint field message ↔
    (entryPoint = httpEntryPoint ∧ (field, message) ∈ p.httpFaults) ∨
      (entryPoint = stompEntryPoint ∧ (field, message) ∈ p.stompFaults) := by
  rw [mem_httpFaults_iff, mem_stompFaults_iff]
  constructor
  · intro flaw
    cases flaw with
    | http given flaw => exact .inl ⟨rfl, _, given, flaw⟩
    | stomp given flaw => exact .inr ⟨rfl, _, given, .inl flaw⟩
    | ssl given flaw => exact .inr ⟨rfl, _, given, .inr flaw⟩
  · rintro (⟨rfl, h, given, flaw⟩ | ⟨rfl, s, given, flaw | flaw⟩)
    · exact .http given flaw
    · exact .stomp given flaw
    · exact .ssl given flaw

theorem messages_errors_of_flaw (flaw : p.Flaw entryPoint field message) :
    p.errors.messages entryPoint field = [message] := by
  rw [errors_eq, ConfigErrors.messages_merge]
  rcases flaw_iff.1 flaw with ⟨rfl, mem⟩ | ⟨rfl, mem⟩
  · rw [ConfigErrors.messages_ofFaults_of_mem p.nodup_httpFaults mem,
      ConfigErrors.messages_ofFaults_eq_nil fun same => absurd same (by decide), List.append_nil]
  · rw [ConfigErrors.messages_ofFaults_of_mem p.nodup_stompFaults mem,
      ConfigErrors.messages_ofFaults_eq_nil fun same => absurd same (by decide), List.nil_append]

theorem messages_errors_of_forall_not (sound : ∀ message, ¬p.Flaw entryPoint field message) :
    p.errors.messages entryPoint field = [] := by
  rw [errors_eq, ConfigErrors.messages_merge,
    ConfigErrors.messages_ofFaults_eq_nil fun here message mem =>
      sound message (flaw_iff.2 (.inl ⟨here, mem⟩)),
    ConfigErrors.messages_ofFaults_eq_nil fun here message mem =>
      sound message (flaw_iff.2 (.inr ⟨here, mem⟩)), List.append_nil]

/-- The errors of a check are those of the entry points. -/
theorem reported_validate (p : ConnectionParams) : reported p.validate = p.errors := by
  cases checked : p.validate with
  | ok q =>
    obtain ⟨rules, -⟩ := validate_eq_ok_iff.1 checked
    exact (ConfigErrors.eq_empty_of_isEmpty (isEmpty_errors_iff.2 rules)).symm
  | error e => exact (validate_eq_error_iff.1 checked).2

/-- Each block is checked as if the other were not there. -/
theorem errors_eq_merge (p : ConnectionParams) :
    p.errors = (errors ⟨p.http, none⟩).merge (errors ⟨none, p.stomp⟩) := by
  have http : errors ⟨p.http, none⟩ = blockErrors HttpParams.validate p.http := rfl
  have stomp : errors ⟨none, p.stomp⟩ = blockErrors StompParams.validate p.stomp :=
    ConfigErrors.empty_merge (isFull_blockErrors StompParams.explains_validate _)
  rw [http, stomp, errors]

/-- Validation succeeds exactly if every block that is there has what is required of it; the result
differs in HTTP settings that were absent, and passes again as it is. Otherwise there is one message
about each flaw of each block and none about any other field, just those that either block gets when
it is checked alone. -/
theorem validate_exactly (p : ConnectionParams) :
    ((∃ q, p.validate = .ok q) ↔ p.IsAcceptable) ∧
    (∀ q, p.validate = .ok q → q.validate = .ok q ∧ q = { p with
      http := p.http.map fun h => { h with
        urlPrefix := h.urlPrefix <|> some "/"
        caVerify := h.caVerify <|> some false
        ssl := h.ssl <|> some false } }) ∧
    ∀ e, p.validate = .error e →
      (∀ entryPoint field message, p.Flaw entryPoint field message →
        e.messages entryPoint field = [message]) ∧
      (∀ entryPoint field, (∀ message, ¬p.Flaw entryPoint field message) →
        e.messages entryPoint field = []) ∧
      e.IsGrounded ∧
      e = (reported (validate ⟨p.http, none⟩)).merge (reported (validate ⟨none, p.stomp⟩)) := by
  refine ⟨?_, fun q passed => ?_, fun e failed => ?_⟩
  · simp only [validate_eq_ok_iff, isAcceptable_iff, exists_and_left, exists_eq, and_true]
  · exact ⟨validate_of_validate passed, (validate_eq_ok_iff.1 passed).2⟩
  · obtain ⟨-, rfl⟩ := validate_eq_error_iff.1 failed
    refine ⟨fun _ _ _ => messages_errors_of_flaw, fun _ _ => messages_errors_of_forall_not,
      p.isBuilt_errors.isGrounded, ?_⟩
    rw [reported_validate, reported_validate, ← errors_eq_merge]

/-- The upper bound is excluded, absent SSL settings are one flaw, and both blocks are told at once.
With these mended, the HTTP block gets its defaults and keeps the empty text that was given. -/
theorem validate_exactly_shed :
    let p : ConnectionParams := {
      http := some { port := some 65535, urlPrefix := some "" }
      stomp := some { host := some "broker", port := some 61613 } }
    let mended : ConnectionParams := {
      http := some { host := some "pi", port := some 65534, urlPrefix := some "" }
      stomp := some {
        host := some "broker", port := some 61613, ssl := some { useSsl := some true } } }
    (∃ e, p.validate = .error e ∧ e.messages "http" "host" = [missingData] ∧
      e.messages "http" "port" = [portOutOfRange] ∧ e.messages "stomp" "ssl" = [missingData] ∧
      e.messages "stomp" "host" = []) ∧
    mended.IsAcceptable ∧ ∃ q, mended.validate = .ok q ∧ q.validate = .ok q ∧ q = { mended with
      http := some {
        host := some "pi", port := some 65534, urlPrefix := some "", caVerify := some false
        ssl := some false } } := by
  intro p mended
  constructor
  · have failed : ∃ e, p.validate = .error e := ⟨_, rfl⟩
    obtain ⟨e, failed⟩ := failed
    obtain ⟨told, silent, -⟩ := p.validate_exactly.2.2 e failed
    refine ⟨e, failed, told _ _ _ (.http rfl (.noHost rfl)),
      told _ _ _ (.http rfl (.outOfRange rfl (by decide))),
      told _ _ _ (.ssl rfl (.noSettings rfl)), silent _ _ fun message flaw => ?_⟩
    rcases flaw_iff.1 flaw with ⟨here, -⟩ | ⟨-, mem⟩
    · exact absurd here (by decide)
    · have same : "host" = "ssl" := congrArg Prod.fst (List.mem_singleton.1 mem)
      exact absurd same (by decide)
  · obtain ⟨acceptable, result, -⟩ := mended.validate_exactly
    have passed : ∃ q, mended.validate = .ok q := ⟨_, rfl⟩
    obtain ⟨q, passed⟩ := passed
    obtain ⟨again, filled⟩ := result q passed
    exact ⟨acceptable.1 ⟨q, passed⟩, q, passed, again, filled⟩

end ConnectionParams

end GardenAdmin
