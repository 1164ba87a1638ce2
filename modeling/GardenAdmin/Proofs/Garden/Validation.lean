import GardenAdmin.Garden.Validation
import GardenAdmin.Proofs.Feedback.ConfigErrors

/-!
# What validation accepts

Connection parameters pass exactly if no entry point that is there breaks a rule, and come back
with the HTTP defaults filled in (`ConnectionParams.validate_eq_ok_iff`). So what came back passes
again, and comes back unchanged.
-/

namespace GardenAdmin

/-- The validator never rejects without a reason. -/
def Explains {β : Type} (validate : β → Except ConfigErrors β) : Prop :=
  ∀ b e, validate b = .error e → e.isEmpty = false ∧ e.IsFull

theorem ConfigErrors.isEmpty_ofFaults (entryPoint : String) (faults : List (String × String)) :
    (ConfigErrors.ofFaults entryPoint faults).isEmpty = faults.isEmpty := by
  rw [ofFaults, isEmpty_ofComplaints, List.isEmpty_map]

section

variable {β : Type} {faults : β → List (String × String)} {f : β → β} {entryPoint : String}

/-! Both entry points are checked alike: without faults the block is filled up, otherwise the faults
are the errors. -/

theorem eq_ok_iff_of_faults {b b' : β} :
    (if (faults b).isEmpty then Except.ok (f b)
      else .error (ConfigErrors.ofFaults entryPoint (faults b))) = .ok b' ↔
    faults b = [] ∧ b' = f b := by
  cases faults b with
  | nil => simp [eq_comm]
  | cons fault rest => simp

theorem explains_of_faults : Explains fun b : β =>
    if (faults b).isEmpty then .ok (f b)
    else .error (ConfigErrors.ofFaults entryPoint (faults b)) := by
  intro b e error
  dsimp only at error
  split at error
  · cases error
  · next faulty =>
    cases error
    rw [ConfigErrors.isEmpty_ofFaults]
    exact ⟨Bool.eq_false_iff.2 faulty, ConfigErrors.isFull_ofComplaints _⟩

end

theorem hostFaults_eq_nil_iff {host : Option String} : hostFaults host = [] ↔ host.isSome := by
  cases host with
  | none => simp [hostFaults]
  | some t => simp [hostFaults]

theorem isSome_of_portFaults {port : Option Int} (rules : portFaults port = []) : port.isSome := by
  cases port with
  | none => cases rules
  | some n => rfl

namespace HttpParams

variable {h : HttpParams}

theorem faults_eq_nil_iff : h.faults = [] ↔ h.host.isSome ∧ portFaults h.port = [] := by
  rw [faults, List.append_eq_nil_iff, hostFaults_eq_nil_iff]

theorem validate_eq_ok_iff {h' : HttpParams} :
    h.validate = .ok h' ↔ h.faults = [] ∧ h' = h.withDefaults :=
  eq_ok_iff_of_faults

theorem explains_validate : Explains validate := explains_of_faults

theorem faults_withDefaults (h : HttpParams) : h.withDefaults.faults = h.faults := rfl

theorem withDefaults_withDefaults (h : HttpParams) :
    h.withDefaults.withDefaults = h.withDefaults := by
  unfold withDefaults
  cases h.urlPrefix <;> cases h.caVerify <;> cases h.ssl <;> rfl

/-- What validation returns passes validation and comes back unchanged. -/
theorem validate_of_validate {h' : HttpParams} (passed : h.validate = .ok h') :
    h'.validate = .ok h' := by
  obtain ⟨rules, rfl⟩ := validate_eq_ok_iff.1 passed
  exact validate_eq_ok_iff.2 ⟨h.faults_withDefaults.trans rules, h.withDefaults_withDefaults.symm⟩

/-- A port is required, and a port is enough not to be empty. -/
theorem isEmpty_of_faults (rules : h.faults = []) : h.isEmpty = false := by
  obtain ⟨-, port⟩ := faults_eq_nil_iff.1 rules
  have given : h.port.isNone = false := Option.isNone_eq_false_iff.2 (isSome_of_portFaults port)
  simp only [isEmpty, given, Bool.false_and]

theorem isEmpty_withDefaults (given : h.isEmpty = false) : h.withDefaults.isEmpty = false := by
  unfold isEmpty withDefaults at *
  cases e : h.urlPrefix with
  | none => exact Bool.and_false _
  | some s =>
    rw [e] at given
    exact given

end HttpParams

namespace StompParams

variable {s : StompParams}

theorem faults_eq_nil_iff :
    s.faults = [] ↔ s.host.isSome ∧ portFaults s.port = [] ∧ StompSsl.faults s.ssl = [] := by
  rw [Stomp.faults, List.append_eq_nil_iff, List.append_eq_nil_iff, hostFaults_eq_nil_iff, and_assoc]

theorem validate_eq_ok_iff {s' : StompParams} : s.validate = .ok s' ↔ s.faults = [] ∧ s' = s :=
  eq_ok_iff_of_faults (f := id)

theorem explains_validate : Explains validate := explains_of_faults (f := id)

theorem isEmpty_of_faults (rules : s.faults = []) : s.isEmpty = false := by
  obtain ⟨-, port, -⟩ := faults_eq_nil_iff.1 rules
  have given : s.port.isNone = false := Option.isNone_eq_false_iff.2 (isSome_of_portFaults port)
  simp only [Stomp.isEmpty, given, Bool.and_false, Bool.false_and]

end StompParams

section

variable {β : Type} {validate : β → Except ConfigErrors β} {block : Option β}

/-- What holds of no errors and of those that the validator finds holds of the errors of a block. -/
theorem blockErrors_induction {P : ConfigErrors → Prop} (none : P .empty)
    (found : ∀ b e, validate b = .error e → P e) (block : Option β) :
    P (blockErrors validate block) := by
  unfold blockErrors
  split
  · next e rejected =>
    obtain ⟨b, -, error⟩ := Option.map_eq_some_iff.1 rejected
    exact found b e error
  · exact none

theorem isFull_blockErrors (h : Explains validate) (block : Option β) :
    (blockErrors validate block).IsFull :=
  blockErrors_induction ConfigErrors.isFull_empty (fun b e error => (h b e error).2) block

/-- A block has no errors exactly if it is absent or passes. -/
theorem isEmpty_blockErrors_iff (h : Explains validate) :
    (blockErrors validate block).isEmpty ↔ ∀ b, block = some b → ∃ b', validate b = .ok b' := by
  cases block with
  | none => exact ⟨fun _ => nofun, fun _ => rfl⟩
  | some b =>
    simp only [blockErrors, Option.map_some, Option.some.injEq, forall_eq']
    cases passed : validate b with
    | ok b' => exact ⟨fun _ => ⟨b', rfl⟩, fun _ => rfl⟩
    | error e =>
      refine ⟨fun empty => ?_, fun ⟨b', e'⟩ => by cases e'⟩
      rw [(h b e passed).1] at empty
      cases empty

theorem blockResult_of_forall {f : β → β} (h : ∀ b, block = some b → validate b = .ok (f b)) :
    blockResult validate block = block.map f := by
  cases block with
  | none => rfl
  | some b =>
    rw [blockResult, Option.bind_some, h b rfl]
    rfl

end

namespace ConnectionParams

variable {p q : ConnectionParams}

/-- No entry point that is there breaks a rule. -/
structure KeepsRules (p : ConnectionParams) : Prop where
  http : ∀ h, p.http = some h → h.faults = []
  stomp : ∀ s, p.stomp = some s → s.faults = []

/-- The parameters with the HTTP defaults filled in. -/
def withDefaults (p : ConnectionParams) : ConnectionParams := ⟨p.http.map (·.withDefaults), p.stomp⟩

theorem isEmpty_errors_iff : ((blockErrors HttpParams.validate p.http).merge
    (blockErrors StompParams.validate p.stomp)).isEmpty ↔ p.KeepsRules := by
  rw [ConfigErrors.isEmpty_merge, Bool.and_eq_true,
    isEmpty_blockErrors_iff HttpParams.explains_validate,
    isEmpty_blockErrors_iff StompParams.explains_validate]
  constructor
  · rintro ⟨http, stomp⟩
    refine ⟨fun h e => ?_, fun s e => ?_⟩
    · obtain ⟨h', passed⟩ := http h e
      exact (HttpParams.validate_eq_ok_iff.1 passed).1
    · obtain ⟨s', passed⟩ := stomp s e
      exact (StompParams.validate_eq_ok_iff.1 passed).1
  · rintro ⟨http, stomp⟩
    refine ⟨fun h e => ⟨_, HttpParams.validate_eq_ok_iff.2 ⟨http h e, rfl⟩⟩, fun s e => ?_⟩
    exact ⟨s, StompParams.validate_eq_ok_iff.2 ⟨stomp s e, rfl⟩⟩

theorem validate_eq_ok_iff : p.validate = .ok q ↔ p.KeepsRules ∧ q = p.withDefaults := by
  have result (rules : p.KeepsRules) :
      (⟨blockResult HttpParams.validate p.http, blockResult StompParams.validate p.stomp⟩ :
        ConnectionParams) = p.withDefaults := by
    rw [blockResult_of_forall fun h e => HttpParams.validate_eq_ok_iff.2 ⟨rules.http h e, rfl⟩,
      blockResult_of_forall (f := id) fun s e => StompParams.validate_eq_ok_iff.2
        ⟨rules.stomp s e, rfl⟩, Option.map_id_fun, id_eq, withDefaults]
  unfold validate
  by_cases rules : p.KeepsRules
  · rw [if_pos (isEmpty_errors_iff.2 rules), result rules, Except.ok.injEq]
    exact ⟨fun e => ⟨rules, e.symm⟩, fun h => h.2.symm⟩
  · rw [if_neg fun empty => rules (isEmpty_errors_iff.1 empty)]
    exact ⟨nofun, fun h => absurd h.1 rules⟩

/-- Parameters are unchanged by validation exactly if every entry point is. -/
theorem validate_eq_self_iff : p.validate = .ok p ↔
    (∀ h ∈ p.http, h.validate = .ok h) ∧ ∀ s ∈ p.stomp, StompParams.validate s = .ok s := by
  rw [validate_eq_ok_iff]
  constructor
  · rintro ⟨rules, filled⟩
    refine ⟨fun h found => ?_, fun s found => ?_⟩
    · have same : p.http = p.http.map (·.withDefaults) := congrArg ConnectionParams.http filled
      rw [Option.mem_def.1 found] at same
      exact HttpParams.validate_eq_ok_iff.2 ⟨rules.http h found, Option.some.inj same⟩
    · exact StompParams.validate_eq_ok_iff.2 ⟨rules.stomp s found, rfl⟩
  · rintro ⟨http, stomp⟩
    refine ⟨⟨fun h found => (HttpParams.validate_eq_ok_iff.1 (http h found)).1, fun s found =>
      (StompParams.validate_eq_ok_iff.1 (stomp s found)).1⟩, ?_⟩
    have same : p.http.map (·.withDefaults) = p.http := by
      refine (Option.map_congr fun h found => ?_).trans Option.map_id'
      exact (HttpParams.validate_eq_ok_iff.1 (http h found)).2.symm
    rw [withDefaults, same]

/-- What validation returns passes validation and comes back unchanged. -/
theorem validate_of_validate (passed : p.validate = .ok q) : q.validate = .ok q := by
  obtain ⟨rules, rfl⟩ := validate_eq_ok_iff.1 passed
  refine validate_eq_self_iff.2 ⟨fun h' found => ?_, fun s found => ?_⟩
  · obtain ⟨h, here, rfl⟩ := Option.map_eq_some_iff.1 found
    exact HttpParams.validate_of_validate
      (HttpParams.validate_eq_ok_iff.2 ⟨rules.http h here, rfl⟩)
  · exact StompParams.validate_eq_ok_iff.2 ⟨rules.stomp s found, rfl⟩

/-! ## Checked parameters -/

/-- Every entry point that is there says something. -/
structure NoBlanks (p : ConnectionParams) : Prop where
  http : ∀ h, p.http = some h → h.isEmpty = false
  stomp : ∀ s, p.stomp = some s → s.isEmpty = false

/-- The parameters pass validation as they are, and no entry point among them is empty. -/
structure IsChecked (p : ConnectionParams) : Prop where
  passes : p.validate = .ok p
  given : p.isEmpty = false
  noBlanks : p.NoBlanks

/-- An entry point that passes is not empty. -/
theorem KeepsRules.noBlanks (rules : p.KeepsRules) : p.NoBlanks :=
  ⟨fun h found => HttpParams.isEmpty_of_faults (rules.http h found),
    fun s found => StompParams.isEmpty_of_faults (rules.stomp s found)⟩

theorem isEmpty_withDefaults (p : ConnectionParams) : p.withDefaults.isEmpty = p.isEmpty := by
  unfold isEmpty withDefaults
  rw [Option.isNone_map]

/-- A default never empties an entry point. -/
theorem NoBlanks.withDefaults (full : p.NoBlanks) : p.withDefaults.NoBlanks := by
  refine ⟨fun h' found => ?_, full.stomp⟩
  obtain ⟨h, here, rfl⟩ := Option.map_eq_some_iff.1 found
  exact h.isEmpty_withDefaults (full.http h here)

end ConnectionParams

end GardenAdmin
