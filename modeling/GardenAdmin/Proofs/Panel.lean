import GardenAdmin.Panel
import GardenAdmin.Proofs.Garden.Configured
import GardenAdmin.Proofs.Garden.Validation

/-!
# What the panel lets through

The record that the panel prepares for a garden is that garden with another connection
(`Panel.isRevision_of_submission`). Its parameters were validated with the defaults filled in, and
entry points left empty in the form are not part of it.
-/

namespace GardenAdmin

/-- The record `r` is the garden `g` with a checked connection. What else the server said of it
stays as it was, members of unknown name included. -/
structure Garden.IsRevision (g r : Garden) : Prop where
  id : r.id = g.id
  name : r.name = g.name
  status : r.status = g.status
  extra : r.extra = g.extra
  checked : ∃ p, r.connectionParams = some p ∧ p.IsChecked

namespace Form

theorem noBlanks_params (f : Form) : f.params.NoBlanks := by
  constructor
  · intro h found
    have := (Option.filter_eq_some_iff.1 found).2
    rwa [Bool.not_eq_true'] at this
  · intro s found
    have := (Option.filter_eq_some_iff.1 found).2
    rwa [Bool.not_eq_true'] at this

end Form

namespace Panel

variable {g r : Garden} {f : Form}

theorem submission_eq_ok_iff : submission g f = .ok r ↔
    g.isLocal = false ∧ f.params.isEmpty = false ∧ ∃ p, f.params.validate = .ok p ∧ r = { g with
      connectionType := f.connectionType <|> g.connectionType
      connectionParams := some p } := by
  unfold submission
  cases g.isLocal with
  | true => exact ⟨nofun, fun h => Bool.noConfusion h.1⟩
  | false =>
    rw [if_neg Bool.false_ne_true]
    cases transcoded : f.toGarden? g with
    | error e =>
      refine ⟨nofun, fun ⟨_, given, _⟩ => ?_⟩
      rw [Form.toGarden?_eq_ok_iff.2 ⟨given, rfl⟩] at transcoded
      cases transcoded
    | ok record =>
      obtain ⟨given, rfl⟩ := Form.toGarden?_eq_ok_iff.1 transcoded
      simp only [Option.getD_some]
      cases f.params.validate with
      | error errors => exact ⟨nofun, fun ⟨_, _, _, passed, _⟩ => nomatch passed⟩
      | ok checked =>
        constructor
        · intro e
          exact ⟨trivial, given, checked, rfl, (Except.ok.inj e).symm⟩
        · rintro ⟨_, _, p, passed, rfl⟩
          cases passed
          rfl

/-- Nothing is prepared but the garden itself with a checked connection. -/
theorem isRevision_of_submission (prepared : submission g f = .ok r) : g.IsRevision r := by
  obtain ⟨-, given, p, passed, rfl⟩ := submission_eq_ok_iff.1 prepared
  refine ⟨rfl, rfl, rfl, rfl, p, rfl, ?_⟩
  have passes := ConnectionParams.validate_of_validate passed
  obtain ⟨-, rfl⟩ := ConnectionParams.validate_eq_ok_iff.1 passed
  exact ⟨passes, (ConnectionParams.isEmpty_withDefaults _).trans given,
    f.noBlanks_params.withDefaults⟩

theorem prepare_eq_some_iff {p q : Panel} : p.prepare = (q, some r) ↔
    submission p.garden p.form = .ok r ∧ q = p.clearFeedback := by
  unfold prepare
  cases submission p.garden p.form with
  | ok record => simp [eq_comm, and_comm]
  | error refusal => simp

end Panel

end GardenAdmin
