import GardenAdmin.Garden.Repair
import GardenAdmin.Proofs.Garden.Validation

/-!
# What repair leaves

A garden that is not local ends up with parameters that pass validation as they are, and with the
block that its type needs (`Garden.exists_serves_repair`). It has a valid STOMP block, or it is an
HTTP garden whose HTTP block was made usable; nothing but the type and the parameters changes.
-/

namespace GardenAdmin

section

variable {β : Type} {validate : β → Except ConfigErrors β} {block : Option β} {b' : β}

theorem blockResult_eq_some_iff :
    blockResult validate block = some b' ↔ ∃ b ∈ block, validate b = .ok b' := by
  rw [blockResult, Option.bind_eq_some_iff]
  refine exists_congr fun b => and_congr_right fun _ => ?_
  cases validate b with
  | ok valid => simp [Except.toOption]
  | error e => simp [Except.toOption]

theorem fst_keepValid (validate : β → Except ConfigErrors β) (repair : Repair) (block : Option β) :
    (keepValid validate repair block).1 = blockResult validate block := by
  cases block with
  | none => rfl
  | some b =>
    simp only [keepValid, blockResult, Option.bind_some]
    cases validate b with
    | ok valid => rfl
    | error e => rfl

end

namespace HttpParams

variable {h h' : HttpParams}

theorem validate_of_isSome (host : h.host.isSome) (port : portFaults h.port = []) :
    h.validate = .ok h.withDefaults :=
  validate_eq_ok_iff.2 ⟨faults_eq_nil_iff.2 ⟨host, port⟩, rfl⟩

theorem portFaults_of_validate (passed : h.validate = .ok h') : portFaults h.port = [] :=
  (faults_eq_nil_iff.1 (validate_eq_ok_iff.1 passed).1).2

/-- Validation has no default for the host. -/
theorem host_of_validate (passed : h.validate = .ok h') : h'.host = h.host := by
  obtain ⟨-, rfl⟩ := validate_eq_ok_iff.1 passed
  rfl

/-- Usable parameters are the given ones, those with defaults below them, or all defaults. -/
theorem repair_cases (block : Option HttpParams) :
    (∃ h ∈ block, h.validate = .ok (repair block).1) ∨
      (∃ h ∈ block, h.overDefaults.validate = .ok (repair block).1) ∨
      (repair block).1 = defaults := by
  cases block with
  | none => exact .inr (.inr rfl)
  | some h =>
    simp only [repair]
    cases given : h.validate with
    | ok valid => exact .inl ⟨h, rfl, given⟩
    | error e =>
      cases filled : h.overDefaults.validate with
      | ok valid => exact .inr (.inl ⟨h, rfl, filled⟩)
      | error e => exact .inr (.inr rfl)

/-- Whatever was given, the parameters that repair makes pass as they are. -/
theorem validate_repair (block : Option HttpParams) :
    (repair block).1.validate = .ok (repair block).1 := by
  obtain ⟨h, -, passed⟩ | ⟨h, -, passed⟩ | all := repair_cases block
  · exact validate_of_validate passed
  · exact validate_of_validate passed
  · rw [all]
    rfl

theorem host_overDefaults_iff : h.overDefaults.host = some "" ↔ h.host = some "" := by
  have filled : h.overDefaults.host = (h.host <|> defaults.host) := rfl
  rw [filled]
  cases h.host with
  | none => decide
  | some t => rfl

theorem portFaults_overDefaults_iff :
    portFaults h.overDefaults.port = [] ↔ portFaults h.port = [] ∨ h.port = none := by
  have filled : h.overDefaults.port = (h.port <|> defaults.port) := rfl
  rw [filled]
  cases h.port with
  | none => decide
  | some n => simp

/-- The host that repair leaves is empty exactly if it was given, with a port that can be kept. -/
theorem host_repair_iff {block : Option HttpParams} : (repair block).1.host = some "" ↔
    ∃ h ∈ block, h.host = some "" ∧ (portFaults h.port = [] ∨ h.port = none) := by
  constructor
  · intro empty
    obtain ⟨h, found, passed⟩ | ⟨h, found, passed⟩ | all := repair_cases block
    · exact ⟨h, found, (host_of_validate passed).symm.trans empty,
        .inl (portFaults_of_validate passed)⟩
    · exact ⟨h, found, host_overDefaults_iff.1 ((host_of_validate passed).symm.trans empty),
        portFaults_overDefaults_iff.1 (portFaults_of_validate passed)⟩
    · rw [all] at empty
      exact absurd empty (by decide)
  · rintro ⟨h, rfl, empty, port⟩
    have filled : h.overDefaults.host = some "" := host_overDefaults_iff.2 empty
    have passed := validate_of_isSome (Option.isSome_of_eq_some filled)
      (portFaults_overDefaults_iff.2 port)
    simp only [repair]
    cases given : h.validate with
    | ok valid => exact (host_of_validate given).trans empty
    | error e =>
      rw [passed]
      exact filled

/-- An empty host passes validation if the port does. -/
theorem exists_host_blockResult_iff {block : Option HttpParams} :
    (∃ h ∈ blockResult validate block, h.host = some "") ↔
      ∃ h ∈ block, h.host = some "" ∧ portFaults h.port = [] := by
  constructor
  · rintro ⟨h', kept, empty⟩
    obtain ⟨h, found, passed⟩ := blockResult_eq_some_iff.1 kept
    exact ⟨h, found, (host_of_validate passed).symm.trans empty, portFaults_of_validate passed⟩
  · rintro ⟨h, found, empty, port⟩
    have passed := validate_of_isSome (Option.isSome_of_eq_some empty) port
    exact ⟨_, blockResult_eq_some_iff.2 ⟨h, found, passed⟩, empty⟩

end HttpParams

namespace ConnectionParams

variable {p : ConnectionParams} {type : Option ConnectionType}

/-- The parameters pass as they are, with the block that a garden of that type needs. -/
structure Serves (p : ConnectionParams) (type : Option ConnectionType) : Prop where
  passes : p.validate = .ok p
  http : type = some .http → p.http.isSome
  stomp : type ≠ some .http → p.stomp.isSome

theorem Serves.isChecked (h : p.Serves type) : p.IsChecked := by
  refine ⟨h.passes, ?_, (validate_eq_ok_iff.1 h.passes).1.noBlanks⟩
  rw [isEmpty, Bool.and_eq_false_iff, Option.isNone_eq_false_iff, Option.isNone_eq_false_iff]
  by_cases http : type = some .http
  · exact .inl (h.http http)
  · exact .inr (h.stomp http)

/-- An entry point has the empty text as its host. -/
def HasEmptyHost (p : ConnectionParams) : Prop :=
  (∃ h ∈ p.http, h.host = some "") ∨ ∃ s ∈ p.stomp, s.host = some ""

end ConnectionParams

namespace Garden

variable {g : Garden}

/-- An entry point has the empty text as its host. -/
def HasEmptyHost (g : Garden) : Prop := ∃ p ∈ g.connectionParams, p.HasEmptyHost

/-- The parameters of the record, empty if it has none. -/
def params (g : Garden) : ConnectionParams := g.connectionParams.getD {}

/-- The STOMP parameters that survive. -/
def validStomp (g : Garden) : Option StompParams := blockResult StompParams.validate g.params.stomp

/-- Repair makes sure of the HTTP block: it is asked for, or there is nothing else. -/
def NeedsHttp (g : Garden) : Prop := g.connectionType = some .http ∨ g.validStomp = none

theorem repair_of_needsHttp (remote : g.connectionType ≠ some .local) (needs : g.NeedsHttp) :
    g.repair.garden = { g with
      connectionType := some .http
      connectionParams := some ⟨some (HttpParams.repair g.params.http).1, g.validStomp⟩ } := by
  simp only [repair, if_neg remote, fst_keepValid]
  split
  · next http =>
    rw [← http]
    rfl
  · next other =>
    have invalid : g.validStomp = none := needs.resolve_left other
    rw [invalid]
    exact congrArg Repaired.garden (if_pos (Option.isNone_iff_eq_none.2 invalid))

theorem repair_of_not_needsHttp (remote : g.connectionType ≠ some .local) (other : ¬g.NeedsHttp) :
    g.repair.garden = { g with
      connectionParams := some
        ⟨blockResult HttpParams.validate g.params.http, g.validStomp⟩ } := by
  obtain ⟨type, valid⟩ := not_or.1 other
  simp only [repair, if_neg remote, if_neg type, fst_keepValid]
  exact congrArg Repaired.garden (if_neg (mt Option.isNone_iff_eq_none.1 valid))

theorem isLocal_repair (remote : g.connectionType ≠ some .local) :
    g.repair.garden.isLocal = g.id.isNone := by
  by_cases needs : g.NeedsHttp
  · rw [repair_of_needsHttp remote needs]
    exact Bool.or_false _
  · rw [repair_of_not_needsHttp remote needs]
    simp [isLocal, remote]

theorem validStomp_eq_some_iff {s : StompParams} :
    g.validStomp = some s ↔ g.params.stomp = some s ∧ s.faults = [] := by
  rw [validStomp, blockResult_eq_some_iff]
  constructor
  · rintro ⟨given, found, passed⟩
    obtain ⟨rules, rfl⟩ := StompParams.validate_eq_ok_iff.1 passed
    exact ⟨found, rules⟩
  · rintro ⟨found, rules⟩
    exact ⟨s, found, StompParams.validate_eq_ok_iff.2 ⟨rules, rfl⟩⟩

/-- Repair has no reason to touch an empty host: its block passes as it is, or the defaults make up
for what is absent. -/
def KeepsEmptyHost (g : Garden) : Prop :=
  (∃ h ∈ g.params.http, h.host = some "" ∧
    (portFaults h.port = [] ∨ g.NeedsHttp ∧ h.port = none)) ∨
  ∃ s ∈ g.validStomp, s.host = some ""

/-- The parameters that repair leaves serve the type that it leaves. -/
theorem exists_serves_repair (remote : g.connectionType ≠ some .local) :
    ∃ p, g.repair.garden.connectionParams = some p ∧ p.Serves g.repair.garden.connectionType := by
  have stomp (s : StompParams) (found : g.validStomp = some s) : s.validate = .ok s :=
    StompParams.validate_eq_ok_iff.2 ⟨(validStomp_eq_some_iff.1 found).2, rfl⟩
  by_cases needs : g.NeedsHttp
  · rw [repair_of_needsHttp remote needs]
    refine ⟨_, rfl, ConnectionParams.validate_eq_self_iff.2 ⟨fun h found => ?_, stomp⟩,
      fun _ => rfl, fun other => absurd rfl other⟩
    cases found
    exact HttpParams.validate_repair _
  · rw [repair_of_not_needsHttp remote needs]
    obtain ⟨type, valid⟩ := not_or.1 needs
    refine ⟨_, rfl, ConnectionParams.validate_eq_self_iff.2 ⟨fun h found => ?_, stomp⟩,
      fun http => absurd http type, fun _ => Option.isSome_iff_ne_none.2 valid⟩
    obtain ⟨given, -, passed⟩ := blockResult_eq_some_iff.1 found
    exact HttpParams.validate_of_validate passed

/-- The parameters that repair leaves keep the rules and are not empty. -/
theorem exists_params_repair (remote : g.connectionType ≠ some .local) :
    ∃ p, g.repair.garden.connectionParams = some p ∧ p.KeepsRules ∧ p.isEmpty = false ∧
      (p.HasEmptyHost ↔ g.KeepsEmptyHost) := by
  obtain ⟨p, params, serves⟩ := exists_serves_repair remote
  refine ⟨p, params, (ConnectionParams.validate_eq_ok_iff.1 serves.passes).1,
    serves.isChecked.given, ?_⟩
  by_cases needs : g.NeedsHttp
  · rw [repair_of_needsHttp remote needs] at params
    cases params
    refine or_congr_left ?_
    simp [HttpParams.host_repair_iff, needs]
  · rw [repair_of_not_needsHttp remote needs] at params
    cases params
    refine or_congr_left ?_
    simp only [needs, false_and, or_false]
    exact HttpParams.exists_host_blockResult_iff

end Garden

end GardenAdmin
