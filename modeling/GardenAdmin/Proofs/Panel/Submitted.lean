import GardenAdmin.Proofs.Garden.Notes
import GardenAdmin.Proofs.Panel

/-!
# Repairing a submitted record

What a panel prepares breaks no rule, so repair has only two grounds to change it: the garden is
local, or the entry point of its type is not the one that was configured. There is a note in either
case (`Garden.repairs_ne_nil`), and without them the record stays (`Panel.repair_submitted_iff`).
-/

namespace GardenAdmin

namespace Garden

variable {g : Garden} {p : ConnectionParams}

/-- The entry point of the garden's type is configured; a garden without a type takes STOMP. -/
def HasOwnEntryPoint (g : Garden) : Prop :=
  (g.connectionType = some .http ∧ g.params.http.isSome) ∨
    ((g.connectionType = some .stomp ∨ g.connectionType = none) ∧ g.params.stomp.isSome)

instance (g : Garden) : Decidable g.HasOwnEntryPoint := inferInstanceAs (Decidable (_ ∨ _))

theorem params_of_eq_some (params : g.connectionParams = some p) : g.params = p := by
  rw [Garden.params, params]
  rfl

theorem isSettled_iff_hasOwnEntryPoint (params : g.connectionParams = some p)
    (passes : p.validate = .ok p) : g.IsSettled ↔ g.HasOwnEntryPoint := by
  rw [IsSettled, HasOwnEntryPoint, params_of_eq_some params, params]
  split
  · next isLocal => simp [isLocal]
  · next remote =>
    have serves : (∃ q, some p = some q ∧ q.Serves g.connectionType) ↔ p.Serves g.connectionType := by
      simp
    rw [serves]
    by_cases http : g.connectionType = some .http
    · refine ⟨fun h => .inl ⟨http, h.http http⟩, fun h => ⟨passes, fun _ => ?_, absurd http⟩⟩
      simpa [http] using h
    · have stomp := stomp_or_none_of_ne remote http
      refine ⟨fun h => .inr ⟨stomp, h.stomp http⟩, fun h => ⟨passes, fun e => absurd e http, ?_⟩⟩
      exact fun _ => (h.resolve_left fun h => http h.1).2

/-! ## What repair notes -/

/-- Parameters that are given are not changed without a note if they lack the entry point of the
garden's type. -/
theorem repairs_ne_nil (given : g.params.isEmpty = false) (other : ¬g.HasOwnEntryPoint) :
    g.repair.repairs ≠ [] := by
  intro silent
  have acceptable := repairs_eq_nil_iff.1 silent
  obtain ⟨noHttp, noStomp⟩ := not_or.1 other
  rw [IsAcceptable] at acceptable
  split at acceptable
  · next isLocal =>
    rw [ConnectionParams.isEmpty, acceptable.1, acceptable.2] at given
    cases given
  · next remote =>
    split at acceptable
    · next http =>
      obtain ⟨⟨h, found, -⟩, -⟩ := acceptable
      exact noHttp ⟨http, Option.isSome_of_eq_some found⟩
    · next http =>
      obtain ⟨⟨s, found, -⟩, -⟩ := acceptable
      exact noStomp ⟨stomp_or_none_of_ne remote http, Option.isSome_of_eq_some found⟩

end Garden

namespace Panel

variable {p : Panel} {r : Garden}

/-- Repair leaves a record that a panel prepares as it is, and has nothing to note, exactly if the
entry point of the record's type is configured. Otherwise it changes the record and notes something.
-/
theorem repair_submitted_iff (prepared : p.prepare.2 = some r) :
    (r.repair.garden = r ∧ r.repair.notes = [] ↔ r.HasOwnEntryPoint) ∧
    (¬r.HasOwnEntryPoint → r.repair.garden ≠ r ∧ r.repair.notes ≠ []) := by
  obtain ⟨submitted, -⟩ := prepare_eq_some_iff.1 (Prod.ext rfl prepared)
  obtain ⟨c, params, checked⟩ := (isRevision_of_submission submitted).checked
  have settled := Garden.isSettled_iff_hasOwnEntryPoint params checked.passes
  refine ⟨⟨fun kept => settled.1 (Garden.isSettled_of_garden_repair kept.1), fun own => ?_⟩,
    fun other => ⟨fun same => other (settled.1 (Garden.isSettled_of_garden_repair same)), ?_⟩⟩
  · rw [Garden.repair_of_isSettled (settled.2 own)]
    exact ⟨rfl, rfl⟩
  · have given : r.params.isEmpty = false := by rw [Garden.params_of_eq_some params, checked.given]
    rw [Repaired.notes, ne_eq, List.map_eq_nil_iff]
    exact Garden.repairs_ne_nil given other

/-- The HTTP entry point is configured, and the type of the garden decides: an HTTP garden is left
alone, one without a type becomes an HTTP garden. -/
theorem repair_submitted_iff_shed :
    let panel : Option ConnectionType → Panel := fun type => {
      garden := { id := some "1", name := "shed", connectionType := type }
      form := { http := some { host := some "pi", port := some 80 } }
      alerts := [], fieldErrors := .empty }
    (∃ r, (panel (some .http)).prepare.2 = some r ∧ r.repair.garden = r ∧ r.repair.notes = []) ∧
    ∃ r, (panel none).prepare.2 = some r ∧ r.repair.garden ≠ r ∧ r.repair.notes ≠ [] := by
  intro panel
  let submitted : Option ConnectionType → Garden := fun type => {
    id := some "1", name := "shed", connectionType := type
    connectionParams := some { http := some {
      host := some "pi", port := some 80, urlPrefix := some "/", caVerify := some false
      ssl := some false } } }
  have http : (panel (some .http)).prepare.2 = some (submitted (some .http)) := rfl
  have unset : (panel none).prepare.2 = some (submitted none) := rfl
  exact ⟨⟨_, http, (repair_submitted_iff http).1.2 (by decide)⟩,
    _, unset, (repair_submitted_iff unset).2 (by decide)⟩

end Panel

end GardenAdmin
