import GardenAdmin.Proofs.Feedback.Complaints
import GardenAdmin.Proofs.Garden.Validation

/-!
# What validation rejects

Parameters are rejected exactly if an entry point breaks a rule, and the errors name just the entry
points that do (`ConnectionParams.mem_entryPoints_errors`).
-/

namespace GardenAdmin

theorem ConfigErrors.mem_entryPoints_ofFaults {entryPoint name : String}
    {faults : List (String × String)} :
    name ∈ (ofFaults entryPoint faults).entryPoints ↔ faults ≠ [] ∧ name = entryPoint := by
  rw [ofFaults, mem_entryPoints_ofComplaints]
  constructor
  · rintro ⟨c, listed, rfl⟩
    obtain ⟨fault, mem, rfl⟩ := List.mem_map.1 listed
    exact ⟨List.ne_nil_of_mem mem, rfl⟩
  · rintro ⟨faulty, rfl⟩
    obtain ⟨fault, mem⟩ := List.exists_mem_of_ne_nil _ faulty
    exact ⟨_, List.mem_map.2 ⟨fault, mem, rfl⟩, rfl⟩

section

variable {β : Type} {faults : β → List (String × String)} {f : β → β} {entryPoint name : String}
  {validate : β → Except ConfigErrors β} {block : Option β}

/-- The validator complains about that entry point and about no other. -/
def Concerns (entryPoint : String) (validate : β → Except ConfigErrors β) : Prop :=
  ∀ b e, validate b = .error e → ∀ name, name ∈ e.entryPoints ↔ name = entryPoint

theorem concerns_of_faults : Concerns entryPoint fun b : β =>
    if (faults b).isEmpty then .ok (f b)
    else .error (ConfigErrors.ofFaults entryPoint (faults b)) := by
  intro b e error name
  dsimp only at error
  split at error
  · cases error
  · next faulty =>
    cases error
    rw [ConfigErrors.mem_entryPoints_ofFaults]
    exact and_iff_right fun none => faulty (List.isEmpty_iff.2 none)

/-- The validator's errors are built from complaints. -/
theorem isBuilt_of_faults {b : β} {e : ConfigErrors}
    (error : (if (faults b).isEmpty then Except.ok (f b)
      else .error (ConfigErrors.ofFaults entryPoint (faults b))) = .error e) : e.IsBuilt := by
  split at error
  · cases error
  · cases error
    exact ConfigErrors.isBuilt_ofComplaints _

/-- The errors of a block name its entry point, if the block is there and rejected. -/
theorem mem_entryPoints_blockErrors (concerns : Concerns entryPoint validate) :
    name ∈ (blockErrors validate block).entryPoints ↔
      name = entryPoint ∧ ∃ b ∈ block, ∃ e, validate b = .error e := by
  have none : name ∉ ConfigErrors.empty.entryPoints := List.not_mem_nil
  cases block with
  | none => exact iff_of_false none fun h => by obtain ⟨-, b, found, -⟩ := h; cases found
  | some b =>
    unfold blockErrors
    simp only [Option.map_some, Option.mem_def, Option.some.injEq, exists_eq_left']
    cases checked : validate b with
    | ok b' => exact iff_of_false none fun h => by obtain ⟨-, e, error⟩ := h; cases error
    | error e => exact (concerns b e checked name).trans (and_iff_left ⟨e, rfl⟩).symm

end

theorem HttpParams.concerns_validate : Concerns httpEntryPoint validate := concerns_of_faults

theorem StompParams.concerns_validate : Concerns stompEntryPoint validate :=
  concerns_of_faults (f := id)

namespace ConnectionParams

variable {p : ConnectionParams} {e : ConfigErrors} {name : String}

/-- The errors of both entry points. -/
def errors (p : ConnectionParams) : ConfigErrors :=
  (blockErrors HttpParams.validate p.http).merge (blockErrors StompParams.validate p.stomp)

theorem isFull_errors (p : ConnectionParams) : p.errors.IsFull :=
  (isFull_blockErrors HttpParams.explains_validate _).merge
    (isFull_blockErrors StompParams.explains_validate _)

theorem isBuilt_errors (p : ConnectionParams) : p.errors.IsBuilt :=
  .merge (blockErrors_induction .empty (fun _ _ => isBuilt_of_faults) p.http)
    (blockErrors_induction .empty (fun _ _ => isBuilt_of_faults (f := id)) p.stomp)

theorem validate_eq_error_iff : p.validate = .error e ↔ ¬p.KeepsRules ∧ e = p.errors := by
  unfold validate
  by_cases rules : p.KeepsRules
  · rw [if_pos (isEmpty_errors_iff.2 rules)]
    exact ⟨nofun, fun h => absurd rules h.1⟩
  · rw [if_neg fun empty => rules (isEmpty_errors_iff.1 empty), Except.error.injEq]
    exact ⟨fun h => ⟨rules, h.symm⟩, fun h => h.2.symm⟩

theorem mem_entryPoints_errors : name ∈ p.errors.entryPoints ↔
    (name = httpEntryPoint ∧ ∃ h ∈ p.http, ∃ e, h.validate = .error e) ∨
      (name = stompEntryPoint ∧ ∃ s ∈ p.stomp, ∃ e, StompParams.validate s = .error e) := by
  rw [errors, ConfigErrors.mem_entryPoints_merge,
    mem_entryPoints_blockErrors HttpParams.concerns_validate,
    mem_entryPoints_blockErrors StompParams.concerns_validate]

end ConnectionParams

end GardenAdmin
