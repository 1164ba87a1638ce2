import GardenAdmin.Proofs.Panel.Preparation

/-!
# What can happen to a panel

A history is a list of actions on a panel. An action loads a record, edits the form of a remote
garden, or leaves garden and form as they are (`Panel.act_cases`); the events of a garden and the
answers of the server are among the actions.
-/

namespace GardenAdmin

open Wire

namespace Panel

inductive Action where
  | reload (g : Garden)
  | edit (f : Form → Form)
  | prepare
  | serverError (e : ServerError)
  | event (e : Event)
  | dismiss (index : Nat)
  | clearAlerts

/-- The panel after an action. A refused edit and an event of no concern change nothing. -/
def act (p : Panel) : Action → Panel
  | .reload g => load g
  | .edit f => (p.edit? f).getD p
  | .prepare => p.prepare.1
  | .serverError e => p.applyServerError e
  | .event e => (p.handle e).1
  | .dismiss index => (p.dismiss index).1
  | .clearAlerts => p.clearAlerts

/-- The panel after a history. -/
def run (p : Panel) (history : List Action) : Panel := history.foldl act p

variable {p q : Panel}

theorem edit?_eq_none_iff {f : Form → Form} : p.edit? f = none ↔ p.isLocal := by
  simp [edit?]

/-! ## Events -/

/-- An event that concerns the panel is about its garden and says that it was removed, or carries a
new record of it. -/
theorem handle?_eq_some_iff {e : Event} : p.handle? e = some q ↔
    (p.garden.id.isSome ∧ e.payloadId? = p.garden.id) ∧
      ((e.kind = .gardenUpdated ∧
          ∃ g, Decoder.ofValue Garden.decoder e.payload = .ok g ∧ q = load g) ∨
        (e.kind = .gardenRemoved ∧
          q = { p with alerts := p.alerts ++ [removalWarning p.garden.name] })) := by
  have guard : ¬(p.garden.id.isNone || e.payloadId? ≠ p.garden.id) ↔
      p.garden.id.isSome ∧ e.payloadId? = p.garden.id := by
    simp [Option.isSome_iff_ne_none]
  unfold handle?
  rw [← guard]
  split
  · next astray => exact ⟨nofun, fun h => absurd astray h.1⟩
  · next own =>
    rw [and_iff_right own]
    cases e.kind with
    | gardenUpdated =>
      cases Decoder.ofValue Garden.decoder e.payload <;> simp [Except.toOption, eq_comm]
    | gardenRemoved => simp [eq_comm]
    | _ => simp

theorem handle_of_eq_none {e : Event} (none : p.handle? e = none) : p.handle e = (p, false) := by
  rw [handle, none]

theorem handle_of_eq_some {e : Event} (some : p.handle? e = some q) : p.handle e = (q, true) := by
  rw [handle, some]

/-- An update that the panel follows puts its record on display. -/
theorem exists_load_of_followed {e : Event} (update : e.kind = .gardenUpdated)
    (followed : (p.handle e).2) :
    ∃ g, Decoder.ofValue Garden.decoder e.payload = .ok g ∧ p.handle e = (load g, true) := by
  cases concerned : p.handle? e with
  | none =>
    rw [handle_of_eq_none concerned] at followed
    cases followed
  | some q =>
    obtain ⟨-, ⟨-, g, decoded, rfl⟩ | ⟨removed, -⟩⟩ := handle?_eq_some_iff.1 concerned
    · exact ⟨g, decoded, handle_of_eq_some concerned⟩
    · cases update.symm.trans removed

/-! ## Actions -/

/-- The action puts the record on display: a reload, or an update that the panel follows. -/
inductive Loads (p : Panel) : Action → Garden → Prop where
  | reload (g : Garden) : p.Loads (.reload g) g
  | update (e : Event) (g : Garden) (followed : (p.handle e).2) (update : e.kind = .gardenUpdated)
      (decoded : Decoder.ofValue Garden.decoder e.payload = .ok g) : p.Loads (.event e) g

theorem act_cases (p : Panel) (a : Action) :
    (∃ g, p.Loads a g ∧ p.act a = load g) ∨
    (∃ f, a = .edit f ∧ p.isLocal = false ∧ p.act a = { p with form := f p.form }) ∨
    ((p.act a).garden = p.garden ∧ (p.act a).form = p.form) := by
  cases a with
  | reload g => exact .inl ⟨g, .reload g, rfl⟩
  | edit f =>
    cases isLocal : p.isLocal with
    | true =>
      rw [act, edit?_eq_none_iff.2 isLocal]
      exact .inr (.inr ⟨rfl, rfl⟩)
    | false =>
      refine .inr (.inl ⟨f, rfl, rfl, ?_⟩)
      simp [act, edit?, isLocal]
  | prepare => exact .inr (.inr ⟨p.garden_prepare, p.form_prepare⟩)
  | serverError e => cases e <;> exact .inr (.inr ⟨rfl, rfl⟩)
  | event e =>
    cases concerned : p.handle? e with
    | none =>
      rw [act, handle_of_eq_none concerned]
      exact .inr (.inr ⟨rfl, rfl⟩)
    | some q =>
      have handled := handle_of_eq_some concerned
      rw [act, handled]
      obtain ⟨-, ⟨update, g, decoded, rfl⟩ | ⟨-, rfl⟩⟩ := handle?_eq_some_iff.1 concerned
      · exact .inl ⟨g, .update e g (congrArg Prod.snd handled) update decoded, rfl⟩
      · exact .inr (.inr ⟨rfl, rfl⟩)
  | dismiss index =>
    rw [act, dismiss]
    cases p.alerts[index]? <;> exact .inr (.inr ⟨rfl, rfl⟩)
  | clearAlerts => exact .inr (.inr ⟨rfl, rfl⟩)

/-- What holds of a record with its own form, and is kept by the edits that are let through, is kept by
every action. -/
theorem act_keeps {P : Garden → Form → Prop} {a : Action} (loaded : ∀ g, P g g.toForm)
    (edited : ∀ f, a = .edit f → p.isLocal = false → P p.garden (f p.form))
    (h : P p.garden p.form) : P (p.act a).garden (p.act a).form := by
  obtain ⟨g, -, load⟩ | ⟨f, rfl, remote, edit⟩ | ⟨garden, form⟩ := p.act_cases a
  · rw [load]
    exact loaded g
  · rw [edit]
    exact edited f rfl remote
  · rw [garden, form]
    exact h

/-- What every action of a history keeps, the history keeps. -/
theorem run_induction {P : Panel → Prop} {history : List Action} (start : P p)
    (step : ∀ q, ∀ a ∈ history, P q → P (q.act a)) : P (p.run history) := by
  induction history generalizing p with
  | nil => exact start
  | cons a history ih =>
    exact ih (step p a (.head _) start) fun q b mem => step q b (.tail _ mem)

end Panel

end GardenAdmin
