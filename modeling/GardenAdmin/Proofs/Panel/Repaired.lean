import GardenAdmin.Proofs.Garden.Repair
import GardenAdmin.Proofs.Garden.RoundTrip
import GardenAdmin.Proofs.Panel.Preparation

/-!
# Submitting a repaired garden

Validation asks for a host that is there, but a form has no empty texts, so preparing asks for one
that is not empty. That is the only difference: a repaired record can be submitted as it stands
exactly if no host in it is empty (`Panel.prepare_repair_iff`).
-/

namespace GardenAdmin

/-! ## The rules under pruning -/

/-- A host survives pruning unless it is empty. -/
theorem isSome_pruneText_iff {host : Option String} (given : host.isSome) :
    (pruneText host).isSome ↔ host ≠ some "" := by
  obtain ⟨t, rfl⟩ := Option.isSome_iff_exists.1 given
  simp [Option.isSome_iff_exists, pruneText_eq_some_iff]

namespace HttpParams

variable {h : HttpParams}

theorem isConfigured_of_faults (rules : h.faults = []) : h.IsConfigured :=
  .inl (isSome_of_portFaults (faults_eq_nil_iff.1 rules).2)

theorem faults_prune_iff (rules : h.faults = []) : h.prune.faults = [] ↔ h.host ≠ some "" := by
  obtain ⟨host, port⟩ := faults_eq_nil_iff.1 rules
  rw [faults_eq_nil_iff, ← isSome_pruneText_iff host]
  exact and_iff_left port

end HttpParams

namespace StompParams

variable {s : StompParams}

theorem isConfigured_of_faults (rules : s.faults = []) : s.IsConfigured :=
  .inl (.inl (isSome_of_portFaults (faults_eq_nil_iff.1 rules).2.1))

/-- Pruning leaves the switch alone. -/
theorem sslFaults_prune (ssl : Option StompSsl) :
    StompSsl.faults (ssl.map (·.prune)) = StompSsl.faults ssl := by
  cases ssl with
  | none => rfl
  | some ssl => rfl

theorem faults_toForm_iff (rules : s.faults = []) :
    s.toForm.toParams.faults = [] ↔ s.host ≠ some "" := by
  obtain ⟨host, port, ssl⟩ := faults_eq_nil_iff.1 rules
  rw [faults_eq_nil_iff, ← isSome_pruneText_iff host]
  exact and_iff_left ⟨port, (sslFaults_prune s.ssl).trans ssl⟩

end StompParams

/-! ## Parameters that keep the rules -/

namespace Garden

variable {g : Garden} {p : ConnectionParams}

theorem isConfigured_of_keepsRules (params : g.connectionParams = some p) (rules : p.KeepsRules)
    (given : p.isEmpty = false) : g.IsConfigured := by
  refine ⟨p, params, ?_⟩
  rcases Bool.and_eq_false_iff.1 given with http | stomp
  · obtain ⟨h, found⟩ := Option.isSome_iff_exists.1 (Option.isNone_eq_false_iff.1 http)
    exact .inl ⟨h, found, HttpParams.isConfigured_of_faults (rules.http h found)⟩
  · obtain ⟨s, found⟩ := Option.isSome_iff_exists.1 (Option.isNone_eq_false_iff.1 stomp)
    exact .inr ⟨s, found, StompParams.isConfigured_of_faults (rules.stomp s found)⟩

theorem passes_toForm_iff (params : g.connectionParams = some p) (rules : p.KeepsRules) :
    g.toForm.Passes ↔ ¬p.HasEmptyHost := by
  have http : g.toForm.http = p.http.map (·.prune) := by simp only [toForm, params, Option.bind_some]
  have stomp : g.toForm.stomp = p.stomp.map (·.toForm) := by
    simp only [toForm, params, Option.bind_some]
  constructor
  · rintro passes (⟨h, found, empty⟩ | ⟨s, found, empty⟩)
    · have fair := rules.http h found
      obtain ⟨h', passed⟩ := passes.http h.prune (http.trans (found ▸ rfl))
        (HttpParams.isConfigured_prune.2 (HttpParams.isConfigured_of_faults fair))
      exact (HttpParams.faults_prune_iff fair).1 (HttpParams.validate_eq_ok_iff.1 passed).1 empty
    · have fair := rules.stomp s found
      obtain ⟨s', passed⟩ := passes.stomp s.toForm (stomp.trans (found ▸ rfl))
        (StompParams.isConfigured_toForm.2 (StompParams.isConfigured_of_faults fair))
      exact (StompParams.faults_toForm_iff fair).1 (StompParams.validate_eq_ok_iff.1 passed).1 empty
  · intro named
    refine ⟨fun h' shown _ => ?_, fun s' shown _ => ?_⟩
    · obtain ⟨h, found, rfl⟩ := Option.map_eq_some_iff.1 (http.symm.trans shown)
      have fair := (HttpParams.faults_prune_iff (rules.http h found)).2 fun empty =>
        named (.inl ⟨h, found, empty⟩)
      exact ⟨_, HttpParams.validate_eq_ok_iff.2 ⟨fair, rfl⟩⟩
    · obtain ⟨s, found, rfl⟩ := Option.map_eq_some_iff.1 (stomp.symm.trans shown)
      have fair := (StompParams.faults_toForm_iff (rules.stomp s found)).2 fun empty =>
        named (.inr ⟨s, found, empty⟩)
      exact ⟨_, StompParams.validate_eq_ok_iff.2 ⟨fair, rfl⟩⟩

end Garden

/-! ## The repaired record on display -/

namespace Panel

variable {g : Garden}

/-- A repaired garden that has an identifier and is not local gives a record without an edit and
without feedback, unless a host in it is empty, and that host was given. -/
theorem prepare_repair_iff (identified : g.id.isSome) (remote : g.connectionType ≠ some .local) :
    ((∃ r, (load g.repair.garden).prepare.2 = some r ∧
        (load g.repair.garden).prepare.1.alerts = [] ∧
        (load g.repair.garden).prepare.1.fieldErrors = .empty) ↔
      ¬g.repair.garden.HasEmptyHost) ∧
    (g.repair.garden.HasEmptyHost ↔ g.KeepsEmptyHost) := by
  obtain ⟨p, params, rules, given, kept⟩ := Garden.exists_params_repair remote
  have hosts : g.repair.garden.HasEmptyHost ↔ p.HasEmptyHost := by
    simp [Garden.HasEmptyHost, params]
  have stays : (load g.repair.garden).garden.isLocal = false :=
    (Garden.isLocal_repair remote).trans (Option.isNone_eq_false_iff.2 identified)
  have configured : (load g.repair.garden).form.IsConfigured :=
    Garden.isConfigured_toForm.2 (Garden.isConfigured_of_keepsRules params rules given)
  rw [hosts, ← Garden.passes_toForm_iff params rules]
  refine ⟨⟨fun ⟨r, prepared, _⟩ => ?_, fun passes => ?_⟩, kept⟩
  · exact (isSome_prepare_iff.1 (Option.isSome_of_eq_some prepared)).2.2
  · obtain ⟨c, -, prepared⟩ := prepare_of_passes stays configured passes
    rw [prepared]
    exact ⟨_, rfl, rfl, rfl⟩

/-- A port that is no port goes with its block's host, and so does the STOMP block without a host. -/
theorem prepare_repair_iff_shed :
    let g : Garden := {
      id := some "1", name := "shed", connectionType := some .stomp
      connectionParams := some {
        http := some { host := some "", port := some 0 }, stomp := some { port := some 61613 } } }
    ∃ r, (load g.repair.garden).prepare.2 = some r ∧
      (load g.repair.garden).prepare.1.alerts = [] := by
  intro g
  obtain ⟨iff, kept⟩ := prepare_repair_iff (g := g) rfl (by decide)
  have named : ¬g.KeepsEmptyHost := by
    rintro (⟨h, found, -, port | ⟨-, absent⟩⟩ | ⟨s, found, -⟩)
    · cases found
      exact absurd port (by decide)
    · cases found
      cases absent
    · cases (Garden.validStomp_eq_some_iff.1 found).1
      exact absurd (Garden.validStomp_eq_some_iff.1 found).2 (by decide)
  obtain ⟨r, prepared, alerts, -⟩ := iff.2 (mt kept.1 named)
  exact ⟨r, prepared, alerts⟩

/-- An empty host needs no repair, and yet the record cannot be submitted. -/
theorem exists_repaired_not_prepared :
    let g : Garden := {
      id := some "1", name := "shed", connectionType := some .http
      connectionParams := some { http := some {
        host := some "", port := some 2337, urlPrefix := some "/", caVerify := some false
        ssl := some false } } }
    g.id.isSome ∧ g.connectionType ≠ some .local ∧ g.repair = ⟨g, []⟩ ∧
      (load g.repair.garden).prepare.2 = none := by
  intro g
  exact ⟨rfl, by decide, rfl, rfl⟩

end Panel

end GardenAdmin
