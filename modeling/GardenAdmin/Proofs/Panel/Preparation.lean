import GardenAdmin.Proofs.Garden.Rejection
import GardenAdmin.Proofs.Panel

/-!
# What preparing a submission does

Preparing returns a record exactly for a remote garden with a configured entry point in the form, if
every configured entry point passes validation; otherwise the feedback says what stands in the way,
in this order. Nothing but the feedback changes, and it does not depend on the feedback before
(`Panel.prepare_outcome`). For a remote garden the form alone decides (`Form.connection`).
-/

namespace GardenAdmin

namespace Form

variable {f : Form} {name : String} {p : ConnectionParams}

/-- Every configured entry point passes its validation, without its incomplete header rows. -/
structure Passes (f : Form) : Prop where
  http : ∀ h ∈ f.http, h.IsConfigured → ∃ h', h.validate = .ok h'
  stomp : ∀ s ∈ f.stomp, s.IsConfigured → ∃ s', s.toParams.validate = .ok s'

/-- The entry point of that name is configured and does not pass its validation. -/
def Offends (f : Form) (name : String) : Prop :=
  (name = httpEntryPoint ∧ ∃ h ∈ f.http, h.IsConfigured ∧ ∃ e, h.validate = .error e) ∨
    (name = stompEntryPoint ∧ ∃ s ∈ f.stomp, s.IsConfigured ∧ ∃ e, s.toParams.validate = .error e)

/-- The parameters hold what validation makes of every configured entry point, and no more. -/
structure Submits (f : Form) (p : ConnectionParams) : Prop where
  http : ∀ h', p.http = some h' ↔ ∃ h ∈ f.http, h.IsConfigured ∧ h.validate = .ok h'
  stomp : ∀ s', p.stomp = some s' ↔ ∃ s ∈ f.stomp, s.IsConfigured ∧ s.toParams.validate = .ok s'

theorem keepsRules_params_iff : f.params.KeepsRules ↔ f.Passes := by
  constructor
  · rintro ⟨http, stomp⟩
    refine ⟨fun h found configured => ?_, fun s found configured => ?_⟩
    · have rules := http h (http_params_eq_some_iff.2 ⟨found, configured⟩)
      exact ⟨_, HttpParams.validate_eq_ok_iff.2 ⟨rules, rfl⟩⟩
    · have rules := stomp s.toParams (stomp_params_eq_some_iff.2 ⟨s, found, configured, rfl⟩)
      exact ⟨_, StompParams.validate_eq_ok_iff.2 ⟨rules, rfl⟩⟩
  · rintro ⟨http, stomp⟩
    refine ⟨fun h submitted => ?_, fun s' submitted => ?_⟩
    · obtain ⟨found, configured⟩ := http_params_eq_some_iff.1 submitted
      obtain ⟨h', passed⟩ := http h found configured
      exact (HttpParams.validate_eq_ok_iff.1 passed).1
    · obtain ⟨s, found, configured, rfl⟩ := stomp_params_eq_some_iff.1 submitted
      obtain ⟨s', passed⟩ := stomp s found configured
      exact (StompParams.validate_eq_ok_iff.1 passed).1

theorem mem_entryPoints_errors_params : name ∈ f.params.errors.entryPoints ↔ f.Offends name := by
  rw [ConnectionParams.mem_entryPoints_errors]
  refine or_congr (and_congr_right' ?_) (and_congr_right' ?_)
  · simp only [Option.mem_def, http_params_eq_some_iff, and_assoc]
  · constructor
    · rintro ⟨_, submitted, rejected⟩
      obtain ⟨s, found, configured, rfl⟩ := stomp_params_eq_some_iff.1 submitted
      exact ⟨s, found, configured, rejected⟩
    · rintro ⟨s, found, configured, rejected⟩
      exact ⟨_, stomp_params_eq_some_iff.2 ⟨s, found, configured, rfl⟩, rejected⟩

theorem submits_of_validate (passed : f.params.validate = .ok p) : f.Submits p := by
  obtain ⟨rules, rfl⟩ := ConnectionParams.validate_eq_ok_iff.1 passed
  refine ⟨fun h' => ?_, fun s' => ?_⟩
  · rw [ConnectionParams.withDefaults, Option.map_eq_some_iff]
    constructor
    · rintro ⟨h, submitted, rfl⟩
      obtain ⟨found, configured⟩ := http_params_eq_some_iff.1 submitted
      exact ⟨h, found, configured, HttpParams.validate_eq_ok_iff.2 ⟨rules.http h submitted, rfl⟩⟩
    · rintro ⟨h, found, configured, passed⟩
      exact ⟨h, http_params_eq_some_iff.2 ⟨found, configured⟩,
        (HttpParams.validate_eq_ok_iff.1 passed).2.symm⟩
  · rw [ConnectionParams.withDefaults, stomp_params_eq_some_iff]
    constructor
    · rintro ⟨s, found, configured, rfl⟩
      have submitted := stomp_params_eq_some_iff.2 ⟨s, found, configured, rfl⟩
      exact ⟨s, found, configured, StompParams.validate_eq_ok_iff.2 ⟨rules.stomp _ submitted, rfl⟩⟩
    · rintro ⟨s, found, configured, passed⟩
      exact ⟨s, found, configured, (StompParams.validate_eq_ok_iff.1 passed).2.symm⟩

/-! ## What a form comes to -/

/-- The parameters to submit with a form, or why there are none. -/
def connection (f : Form) : Except Panel.Refusal ConnectionParams :=
  if f.params.isEmpty then .error (.form .noEntryPoint)
  else f.params.validate.mapError .invalid

theorem connection_of_not_isConfigured (unconfigured : ¬f.IsConfigured) :
    f.connection = .error (.form .noEntryPoint) := by
  rw [← isEmpty_params_eq_false_iff, Bool.not_eq_false] at unconfigured
  rw [connection, if_pos unconfigured]

theorem connection_of_not_passes (configured : f.IsConfigured) (rejected : ¬f.Passes) :
    f.connection = .error (.invalid f.params.errors) := by
  have given := Bool.eq_false_iff.1 (isEmpty_params_eq_false_iff.2 configured)
  have error : f.params.validate = .error f.params.errors :=
    ConnectionParams.validate_eq_error_iff.2 ⟨mt keepsRules_params_iff.1 rejected, rfl⟩
  rw [connection, if_neg given, error]
  rfl

theorem connection_of_passes (configured : f.IsConfigured) (passes : f.Passes) :
    ∃ c, f.params.validate = .ok c ∧ f.connection = .ok c := by
  have given := Bool.eq_false_iff.1 (isEmpty_params_eq_false_iff.2 configured)
  have passed : f.params.validate = .ok f.params.withDefaults :=
    ConnectionParams.validate_eq_ok_iff.2 ⟨keepsRules_params_iff.2 passes, rfl⟩
  refine ⟨_, passed, ?_⟩
  rw [connection, if_neg given, passed]
  rfl

end Form

namespace Panel

variable {p q : Panel}

/-! ## The outcomes -/

/-- Of a remote garden no more than the type matters, and that only if the form has none. -/
theorem submission_of_remote {g : Garden} {f : Form} (remote : g.isLocal = false) :
    submission g f = f.connection.map fun c => { g with
      connectionType := f.connectionType <|> g.connectionType
      connectionParams := some c } := by
  rw [submission, Form.toGarden?, Form.connection, if_neg (Bool.eq_false_iff.1 remote)]
  cases f.params.isEmpty with
  | true => rfl
  | false =>
    simp only [Bool.false_eq_true, if_false, Option.getD_some]
    cases f.params.validate <;> rfl

theorem prepare_of_error {r : Refusal} (remote : p.garden.isLocal = false)
    (refused : p.form.connection = .error r) :
    p.prepare = (p.clearFeedback.showRefusal r, none) := by
  rw [prepare, submission_of_remote remote, refused]
  rfl

theorem prepare_of_ok {c : ConnectionParams} (remote : p.garden.isLocal = false)
    (passed : p.form.connection = .ok c) :
    p.prepare = (p.clearFeedback, some { p.garden with
      connectionType := p.form.connectionType <|> p.garden.connectionType
      connectionParams := some c }) := by
  rw [prepare, submission_of_remote remote, passed]
  rfl

theorem prepare_of_isLocal (isLocal : p.garden.isLocal) :
    p.prepare = ({ p with alerts := [localWarning], fieldErrors := .empty }, none) := by
  simp [prepare, submission, isLocal, clearFeedback, showRefusal]

theorem prepare_of_not_isConfigured (remote : p.garden.isLocal = false)
    (unconfigured : ¬p.form.IsConfigured) :
    p.prepare = ({ p with
      alerts := [⟨.warning, FormError.noEntryPoint.message⟩], fieldErrors := .empty }, none) :=
  prepare_of_error remote (Form.connection_of_not_isConfigured unconfigured)

theorem prepare_of_not_passes (remote : p.garden.isLocal = false)
    (configured : p.form.IsConfigured) (rejected : ¬p.form.Passes) :
    p.prepare = ({ p with
      alerts := p.form.params.errors.alerts, fieldErrors := p.form.params.errors }, none) := by
  rw [prepare_of_error remote (Form.connection_of_not_passes configured rejected)]
  simp [clearFeedback, showRefusal, showConfigErrors,
    ConfigErrors.empty_merge p.form.params.isFull_errors]

theorem prepare_of_passes (remote : p.garden.isLocal = false) (configured : p.form.IsConfigured)
    (passes : p.form.Passes) : ∃ c, p.form.params.validate = .ok c ∧
      p.prepare = ({ p with alerts := [], fieldErrors := .empty }, some { p.garden with
        connectionType := p.form.connectionType <|> p.garden.connectionType
        connectionParams := some c }) := by
  obtain ⟨c, passed, connection⟩ := Form.connection_of_passes configured passes
  exact ⟨c, passed, prepare_of_ok remote connection⟩

/-! ## What stays -/

@[simp]
theorem garden_showRefusal (p : Panel) (r : Refusal) : (p.showRefusal r).garden = p.garden := by
  cases r <;> rfl

@[simp]
theorem form_showRefusal (p : Panel) (r : Refusal) : (p.showRefusal r).form = p.form := by
  cases r <;> rfl

theorem garden_prepare (p : Panel) : p.prepare.1.garden = p.garden := by
  unfold prepare
  split
  · rfl
  · exact garden_showRefusal ..

theorem form_prepare (p : Panel) : p.prepare.1.form = p.form := by
  unfold prepare
  split
  · rfl
  · exact form_showRefusal ..

/-- Earlier feedback does not matter. -/
theorem prepare_congr (garden : q.garden = p.garden) (form : q.form = p.form) :
    q.prepare = p.prepare := by
  have cleared : q.clearFeedback = p.clearFeedback := by
    unfold clearFeedback
    rw [garden, form]
  rw [prepare, prepare, garden, form, cleared]

theorem prepare_prepare (p : Panel) : p.prepare.1.prepare = p.prepare :=
  prepare_congr p.garden_prepare p.form_prepare

theorem isSome_prepare_iff : p.prepare.2.isSome ↔
    p.garden.isLocal = false ∧ p.form.IsConfigured ∧ p.form.Passes := by
  constructor
  · intro prepared
    cases isLocal : p.garden.isLocal with
    | true =>
      rw [prepare_of_isLocal isLocal] at prepared
      cases prepared
    | false =>
      by_cases configured : p.form.IsConfigured
      · by_cases passes : p.form.Passes
        · exact ⟨rfl, configured, passes⟩
        · rw [prepare_of_not_passes isLocal configured passes] at prepared
          cases prepared
      · rw [prepare_of_not_isConfigured isLocal configured] at prepared
        cases prepared
  · rintro ⟨remote, configured, passes⟩
    obtain ⟨c, -, prepared⟩ := prepare_of_passes remote configured passes
    rw [prepared]
    rfl

/-- Whatever happened to the panel before, preparing returns a record exactly if the garden is
remote, the form has a configured entry point, and all those pass. The record is the garden with the
form's type, if it has one, and what validation makes of the configured entry points; no feedback is
left then. Otherwise there is one warning on a local garden or on a form without an entry point, or
else one per rejected entry point, in name order, with the errors of the validator. Garden and form
stay as they are, earlier feedback does not matter, and preparing again changes nothing. -/
theorem prepare_outcome (p : Panel) :
    (p.prepare.2.isSome ↔
      p.garden.isLocal = false ∧ p.form.IsConfigured ∧ p.form.Passes) ∧
    (∀ r, p.prepare.2 = some r → p.prepare.1.alerts = [] ∧ p.prepare.1.fieldErrors = .empty ∧
      ∃ c, p.form.Submits c ∧ r = { p.garden with
        connectionType := p.form.connectionType <|> p.garden.connectionType
        connectionParams := some c }) ∧
    (p.garden.isLocal → p.prepare.1.alerts = [localWarning] ∧
      p.prepare.1.fieldErrors = .empty) ∧
    (p.garden.isLocal = false → ¬p.form.IsConfigured →
      p.prepare.1.alerts = [⟨.warning, FormError.noEntryPoint.message⟩] ∧
      p.prepare.1.fieldErrors = .empty) ∧
    (p.garden.isLocal = false → p.form.IsConfigured → ¬p.form.Passes →
      p.form.params.validate = .error p.prepare.1.fieldErrors ∧
      ∃ names : List String, names.Pairwise (· < ·) ∧
        (∀ name, name ∈ names ↔ p.form.Offends name) ∧
        p.prepare.1.alerts = names.map ConfigErrors.rejectionWarning) ∧
    p.prepare.1.garden = p.garden ∧ p.prepare.1.form = p.form ∧
    (∀ q : Panel, q.garden = p.garden → q.form = p.form → q.prepare = p.prepare) ∧
    p.prepare.1.prepare = p.prepare := by
  refine ⟨isSome_prepare_iff, fun r prepared => ?_, fun isLocal => ?_, fun remote unconfigured => ?_,
    fun remote configured rejected => ?_, p.garden_prepare, p.form_prepare,
    fun _ => prepare_congr, p.prepare_prepare⟩
  · obtain ⟨remote, configured, passes⟩ := isSome_prepare_iff.1 (Option.isSome_of_eq_some prepared)
    obtain ⟨c, passed, outcome⟩ := prepare_of_passes remote configured passes
    rw [outcome] at prepared ⊢
    exact ⟨rfl, rfl, c, Form.submits_of_validate passed, (Option.some.inj prepared).symm⟩
  · rw [prepare_of_isLocal isLocal]
    exact ⟨rfl, rfl⟩
  · rw [prepare_of_not_isConfigured remote unconfigured]
    exact ⟨rfl, rfl⟩
  · rw [prepare_of_not_passes remote configured rejected]
    refine ⟨ConnectionParams.validate_eq_error_iff.2 ⟨mt Form.keepsRules_params_iff.1 rejected, rfl⟩,
      p.form.params.errors.entryPoints, ConfigErrors.pairwise_entryPoints _, fun name => ?_, rfl⟩
    exact Form.mem_entryPoints_errors_params

/-- A form that passes in spite of a half-filled header row, and one that does not. -/
theorem prepare_outcome_shed :
    let good : Panel := {
      garden := { id := some "1", name := "shed", connectionType := some .stomp }
      form := {
        http := some { host := some "pi", port := some 80 }
        stomp := some { headers := [⟨some "a", none⟩] } }
      alerts := [localWarning], fieldErrors := .empty }
    let bad : Panel := { good with form := { http := some { host := some "pi", port := some 0 } } }
    (∃ r, good.prepare.2 = some r ∧ good.prepare.1.alerts = [] ∧ ∃ c, good.form.Submits c ∧
      r.connectionType = some .stomp ∧ r.connectionParams = some c) ∧
    bad.form.params.validate = .error bad.prepare.1.fieldErrors ∧
      ∃ names : List String, (∀ name, name ∈ names ↔ bad.form.Offends name) ∧
        bad.prepare.1.alerts = names.map ConfigErrors.rejectionWarning := by
  intro good bad
  constructor
  · have passes : good.form.Passes := by
      refine ⟨fun h found _ => ?_, fun s found configured => ?_⟩
      · cases found
        exact ⟨_, rfl⟩
      · cases found
        exact absurd configured (by decide)
    obtain ⟨returns, record, -⟩ := prepare_outcome good
    obtain ⟨r, prepared⟩ := Option.isSome_iff_exists.1 (returns.2 ⟨by decide, by decide, passes⟩)
    obtain ⟨alerts, -, c, submits, rfl⟩ := record r prepared
    exact ⟨_, prepared, alerts, c, submits, rfl, rfl⟩
  · have rejected : ¬bad.form.Passes := fun passes => by
      obtain ⟨h', passed⟩ := passes.http _ rfl (by decide)
      cases passed
    obtain ⟨-, -, -, -, rejection, -⟩ := prepare_outcome bad
    obtain ⟨error, names, -, offends, alerts⟩ := rejection (by decide) (by decide) rejected
    exact ⟨error, names, offends, alerts⟩

end Panel

end GardenAdmin
