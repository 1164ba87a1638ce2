import GardenAdmin.Proofs.Panel.History

/-!
# Local and remote submissions

A prepared record is local exactly if the form says so, whatever the garden's own type is
(`Panel.isLocal_of_prepare`). No action but an edit makes a form local.
-/

namespace GardenAdmin

/-- The edit makes no form local that was not. -/
def Form.StaysRemote (f : Form → Form) : Prop :=
  ∀ form, form.connectionType ≠ some .local → (f form).connectionType ≠ some .local

namespace Panel

variable {p : Panel} {a : Action}

/-- The form of a remote garden is not local either. -/
def HasRemoteForm (p : Panel) : Prop := p.isLocal = false → p.form.connectionType ≠ some .local

theorem hasRemoteForm_load (g : Garden) : (load g).HasRemoteForm := fun remote =>
  (Garden.isLocal_eq_false_iff.1 remote).2

theorem HasRemoteForm.act (h : p.HasRemoteForm) (a : Action)
    (stays : ∀ f, a = .edit f → Form.StaysRemote f) : (p.act a).HasRemoteForm :=
  act_keeps (P := fun g f => g.isLocal = false → f.connectionType ≠ some .local)
    hasRemoteForm_load (fun f e remote _ => stays f e _ (h remote)) h

theorem hasRemoteForm_run {g : Garden} {history : List Action}
    (stays : ∀ f, .edit f ∈ history → Form.StaysRemote f) : ((load g).run history).HasRemoteForm :=
  run_induction (hasRemoteForm_load g) fun _ a mem h => h.act a fun f e => stays f (e ▸ mem)

theorem isLocal_of_prepare {r : Garden} (prepared : p.prepare.2 = some r) :
    p.isLocal = false ∧ r.id.isSome ∧ r.connectionParams.isSome ∧
      (r.isLocal ↔ p.form.connectionType = some .local) := by
  obtain ⟨submitted, -⟩ := prepare_eq_some_iff.1 (Prod.ext rfl prepared)
  obtain ⟨remote, -, c, -, rfl⟩ := submission_eq_ok_iff.1 submitted
  obtain ⟨hasId, type⟩ := Garden.isLocal_eq_false_iff.1 remote
  refine ⟨remote, hasId, rfl, ?_⟩
  rw [← Bool.not_eq_false, Garden.isLocal_eq_false_iff]
  cases p.form.connectionType with
  | none => simp [hasId, type]
  | some t => simp [hasId]

/-- After any history, a record that is prepared has an id and parameters, and it is local exactly if
the form is; the panel of the record refuses edits in just that case. It is remote if no edit has
made a form local. -/
theorem isLocal_submitted_iff {g r : Garden} {history : List Action}
    (prepared : ((load g).run history).prepare.2 = some r) :
    r.id.isSome ∧ r.connectionParams.isSome ∧
    (r.isLocal ↔ ((load g).run history).form.connectionType = some .local) ∧
    (∀ f, (load r).edit? f = none ↔
      ((load g).run history).form.connectionType = some .local) ∧
    ((∀ f, .edit f ∈ history → Form.StaysRemote f) → r.isLocal = false) := by
  obtain ⟨remote, hasId, given, iff⟩ := isLocal_of_prepare prepared
  refine ⟨hasId, given, iff, fun f => edit?_eq_none_iff.trans iff, fun stays => ?_⟩
  exact Bool.eq_false_iff.2 fun isLocal => hasRemoteForm_run stays remote (iff.1 isLocal)

/-- A host and a port are filled in. -/
theorem isLocal_submitted_iff_remote :
    let g : Garden := { id := some "1", name := "shed", connectionType := some .http }
    let fill : Form → Form := fun f => { f with http := some { host := some "pi", port := some 80 } }
    ∃ r, ((load g).run [.prepare, .edit fill]).prepare.2 = some r ∧ r.connectionParams.isSome ∧
      r.isLocal = false := by
  intro g fill
  have prepared : ((load g).run [.prepare, .edit fill]).prepare.2 = some { g with
      connectionParams := some { http := some {
        host := some "pi", port := some 80, urlPrefix := some "/", caVerify := some false
        ssl := some false } } } := rfl
  obtain ⟨-, given, -, -, remote⟩ := isLocal_submitted_iff prepared
  refine ⟨_, prepared, given, remote fun f mem form remote => ?_⟩
  rcases List.mem_cons.1 mem with e | mem
  · cases e
  · cases List.mem_singleton.1 mem
    exact remote

/-- A remote garden whose form is replaced by a local one: the record is local, it carries
parameters, and its panel refuses edits. -/
theorem exists_local_submission :
    let g : Garden := { id := some "1", name := "shed", connectionType := some .http }
    let form : Form := {
      connectionType := some .local, http := some { host := some "pi", port := some 80 } }
    ∃ p r, g.isLocal = false ∧ (load g).edit? (fun _ => form) = some p ∧ p.prepare.2 = some r ∧
      r.isLocal ∧ r.connectionParams.isSome ∧ (load r).edit? id = none :=
  ⟨_, _, by decide, rfl, rfl, by decide, by decide, rfl⟩

end Panel

end GardenAdmin
