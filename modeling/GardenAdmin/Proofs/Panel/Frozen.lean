import GardenAdmin.Proofs.Panel.History

/-!
# Local gardens are frozen

A garden can become local while its form is being edited, so that a local garden shows its own form
is not a fact about loading: it is kept by every action (`Panel.IsFrozen.act`), since the actions
that put another garden on display put its form there too.
-/

namespace GardenAdmin

open Wire

namespace Panel

variable {p : Panel} {a : Action} {g : Garden}

/-- A local garden is shown with its own form. -/
def IsFrozen (p : Panel) : Prop := p.isLocal → p.form = p.garden.toForm

theorem isFrozen_load (g : Garden) : (load g).IsFrozen := fun _ => rfl

theorem IsFrozen.act (h : p.IsFrozen) (a : Action) : (p.act a).IsFrozen :=
  act_keeps (P := fun g f => g.isLocal → f = g.toForm) isFrozen_load
    (fun _ _ remote isLocal => Bool.noConfusion (remote.symm.trans isLocal)) h

theorem isFrozen_run (g : Garden) (history : List Action) : ((load g).run history).IsFrozen :=
  run_induction (isFrozen_load g) fun _ a _ h => h.act a

theorem act_of_loads (loads : p.Loads a g) : p.act a = load g := by
  cases loads with
  | reload => rfl
  | update e g followed update decoded =>
    obtain ⟨g', decoded', handled⟩ := exists_load_of_followed update followed
    cases decoded.symm.trans decoded'
    rw [act, handled]

theorem exists_loads_of_garden_ne (changed : (p.act a).garden ≠ p.garden) : ∃ g, p.Loads a g := by
  obtain ⟨g, loads, -⟩ | ⟨f, -, -, edited⟩ | ⟨garden, -⟩ := p.act_cases a
  · exact ⟨g, loads⟩
  · rw [edited] at changed
    exact absurd rfl changed
  · exact absurd garden changed

theorem exists_loads_of_update {e : Event} (update : e.kind = .gardenUpdated)
    (followed : (p.handle e).2) : ∃ g, p.Loads (.event e) g := by
  obtain ⟨g, decoded, -⟩ := exists_load_of_followed update followed
  exact ⟨g, .update e g followed update decoded⟩

/-- After any history, a garden that has no identifier or the local type is shown with its own form,
refuses edits and prepares no record, and the warning is then the only feedback. The garden changes
only when a record is loaded, by a reload or an update that the panel follows, and then everything
else on the panel is reset to that record. -/
theorem frozen_of_isLocal (g : Garden) (history : List Action) :
    let p := (load g).run history
    (p.garden.id = none ∨ p.garden.connectionType = some .local →
      p.form = p.garden.toForm ∧ (∀ f, p.edit? f = none) ∧
      p.prepare = ({ p with alerts := [localWarning], fieldErrors := .empty }, none)) ∧
    (∀ a, (p.act a).garden ≠ p.garden → ∃ g', p.Loads a g') ∧
    (∀ e, e.kind = .gardenUpdated → (p.handle e).2 → ∃ g', p.Loads (.event e) g') ∧
    ∀ a g', p.Loads a g' →
      p.act a = { garden := g', form := g'.toForm, alerts := [], fieldErrors := .empty } := by
  intro p
  refine ⟨fun frozen => ?_, fun a => exists_loads_of_garden_ne, fun e => exists_loads_of_update,
    fun a g' => act_of_loads⟩
  have isLocal : p.isLocal := Garden.isLocal_iff.2 frozen
  exact ⟨isFrozen_run g history isLocal, fun f => edit?_eq_none_iff.2 isLocal,
    prepare_of_isLocal isLocal⟩

/-- An update makes the garden local while its form is edited, and another one makes it remote
again. -/
theorem frozen_of_isLocal_updated :
    let update : Json.Value → Event := fun type => {
      name := "GARDEN_UPDATED"
      payload := .object
        [("id", .string "1"), ("name", .string "shed"), ("connection_type", type)] }
    let g : Garden := { id := some "1", name := "shed" }
    let edit : Form → Form := fun f => { f with http := some { host := some "pi" } }
    let p := (load g).run [.edit edit, .event (update (.string "LOCAL"))]
    p.form = p.garden.toForm ∧ p.edit? edit = none ∧ p.prepare.1.alerts = [localWarning] ∧
    (p.act (.event (update .null))).alerts = [] ∧
    ((p.act (.event (update .null))).edit? edit).isSome := by
  intro update g edit p
  have isLocal : p.garden.id = none ∨ p.garden.connectionType = some .local := by decide +kernel
  obtain ⟨frozen, -, loads, resets⟩ :=
    frozen_of_isLocal g [.edit edit, .event (update (.string "LOCAL"))]
  obtain ⟨form, refuses, prepared⟩ := frozen isLocal
  obtain ⟨g', loaded⟩ := loads (update .null) (by decide) (by decide +kernel)
  refine ⟨form, refuses edit, congrArg (·.1.alerts) prepared, ?_, by decide +kernel⟩
  rw [resets _ g' loaded]

end Panel

end GardenAdmin
