import GardenAdmin.Proofs.Feedback.ConfigErrors

/-!
# Errors field by field

Full errors are determined by the messages of their fields (`ConfigErrors.ext_at?`), and merging
joins the messages field by field (`ConfigErrors.at?_merge`). So nothing is lost or added when errors
are merged into none, and the entry points of merged errors are those of both, in whichever order they
are merged.
-/

namespace GardenAdmin

namespace ConfigErrors

variable {e a b : ConfigErrors} {entryPoint : String}

/-- The messages of a field that the errors name. -/
def at? (e : ConfigErrors) (entryPoint field : String) : Option (List String) :=
  (e.byEntryPoint.get? entryPoint).bind (·.get? field)

/-- An entry point that is not named has no fields. -/
theorem get?_getD (e : ConfigErrors) (entryPoint field : String) :
    ((e.byEntryPoint.get? entryPoint).getD .empty).get? field = e.at? entryPoint field := by
  unfold at?
  cases e.byEntryPoint.get? entryPoint <;> rfl

/-- The messages of both, if both are there. -/
abbrev join : Option (List String) → Option (List String) → Option (List String) :=
  Option.merge (· ++ ·)

theorem join_some (x : Option (List String)) (messages : List String) :
    join x (some messages) = some (x.getD [] ++ messages) := by
  cases x <;> rfl

theorem IsFull.isSome_get?_iff (full : e.IsFull) :
    (e.byEntryPoint.get? entryPoint).isSome ↔ ∃ field, (e.at? entryPoint field).isSome := by
  cases found : e.byEntryPoint.get? entryPoint with
  | none => simp [at?, found]
  | some fields =>
    obtain ⟨field, here⟩ := SortedMap.isEmpty_eq_false_iff.1 (full entryPoint fields found)
    refine iff_of_true rfl ⟨field, ?_⟩
    rw [at?, found]
    exact here

/-- Full errors with the same messages in every field are the same. -/
theorem ext_at? (fullA : a.IsFull) (fullB : b.IsFull)
    (h : ∀ entryPoint field, a.at? entryPoint field = b.at? entryPoint field) : a = b := by
  have maps : a.byEntryPoint = b.byEntryPoint := by
    refine SortedMap.ext_get? fun entryPoint => ?_
    have named : (a.byEntryPoint.get? entryPoint).isSome ↔ (b.byEntryPoint.get? entryPoint).isSome := by
      simp only [fullA.isSome_get?_iff, fullB.isSome_get?_iff, h]
    have same := h entryPoint
    simp only [at?] at same
    cases inA : a.byEntryPoint.get? entryPoint <;> cases inB : b.byEntryPoint.get? entryPoint
    case none.none => rfl
    case some.some fields fields' =>
      rw [inA, inB] at same
      exact congrArg some (SortedMap.ext_get? same)
    all_goals simp [inA, inB] at named
  cases a
  cases b
  exact congrArg mk maps

/-! ## Merging -/

theorem at?_append (e : ConfigErrors) (entryPoint field : String) (messages : List String)
    (entryPoint' field' : String) :
    (e.append entryPoint field messages).at? entryPoint' field' =
      if entryPoint' = entryPoint ∧ field' = field then
        join (e.at? entryPoint' field') (some messages)
      else e.at? entryPoint' field' := by
  rw [at?, append, SortedMap.get?_update]
  by_cases here : entryPoint' = entryPoint
  · subst here
    rw [if_pos rfl, Option.bind_some, SortedMap.get?_update]
    simp only [get?_getD, join_some, true_and]
    split <;> simp_all
  · rw [if_neg here, if_neg fun h => here h.1, at?]

theorem get?_fields_merge (fields more : FieldErrors) (field : String) :
    (fields.merge more).get? field = join (fields.get? field) (more.get? field) := by
  rw [FieldErrors.merge, SortedMap.get?_mergeWith]
  cases fields.get? field <;> cases more.get? field <;> rfl

/-- Merging joins the messages of every field. -/
theorem at?_merge (a b : ConfigErrors) (entryPoint field : String) :
    (a.merge b).at? entryPoint field = join (a.at? entryPoint field) (b.at? entryPoint field) := by
  rw [at?, get?_merge]
  cases inB : b.byEntryPoint.get? entryPoint with
  | none =>
    have absent : b.at? entryPoint field = none := by rw [at?, inB]; rfl
    rw [absent]
    exact Option.merge_none_right.symm
  | some fields =>
    have here : b.at? entryPoint field = fields.get? field := by rw [at?, inB]; rfl
    rw [here, Option.map_some, Option.some_or, Option.bind_some, get?_fields_merge, get?_getD]

theorem empty_merge (full : e.IsFull) : empty.merge e = e :=
  ext_at? (isFull_empty.merge full) full fun entryPoint field => by
    rw [at?_merge]
    exact Option.merge_none_left

/-! ## Entry points -/

/-- Entry points come in name order, each once. -/
theorem pairwise_entryPoints (e : ConfigErrors) : e.entryPoints.Pairwise (· < ·) :=
  e.byEntryPoint.pairwise_keys

theorem mem_entryPoints_iff :
    entryPoint ∈ e.entryPoints ↔ (e.byEntryPoint.get? entryPoint).isSome :=
  SortedMap.mem_keys_iff

theorem mem_entryPoints_append {field entryPoint' : String} {messages : List String} :
    entryPoint ∈ (e.append entryPoint' field messages).entryPoints ↔
      entryPoint = entryPoint' ∨ entryPoint ∈ e.entryPoints := by
  rw [mem_entryPoints_iff, mem_entryPoints_iff, append, SortedMap.get?_update]
  split <;> simp_all

theorem mem_entryPoints_addAll {cs : List Complaint} :
    entryPoint ∈ (e.addAll cs).entryPoints ↔
      (∃ c ∈ cs, c.entryPoint = entryPoint) ∨ entryPoint ∈ e.entryPoints := by
  induction cs generalizing e with
  | nil => simp [addAll]
  | cons c cs ih =>
    rw [addAll, List.foldl_cons, ← addAll, ih, add, mem_entryPoints_append]
    grind

theorem mem_entryPoints_ofComplaints {cs : List Complaint} :
    entryPoint ∈ (ofComplaints cs).entryPoints ↔ ∃ c ∈ cs, c.entryPoint = entryPoint := by
  rw [ofComplaints, mem_entryPoints_addAll]
  exact or_iff_left (List.not_mem_nil)

theorem mem_entryPoints_merge :
    entryPoint ∈ (a.merge b).entryPoints ↔
      entryPoint ∈ a.entryPoints ∨ entryPoint ∈ b.entryPoints := by
  simp only [mem_entryPoints_iff, get?_merge, Option.isSome_or, Option.isSome_map,
    Bool.or_eq_true, or_comm]

/-! ## Merging in either order -/

theorem entryPoints_merge_comm (a b : ConfigErrors) :
    (a.merge b).entryPoints = (b.merge a).entryPoints :=
  SortedMap.keys_congr fun entryPoint => by
    simp only [get?_merge, Option.isSome_or, Option.isSome_map, Bool.or_comm]

theorem alerts_merge_comm (a b : ConfigErrors) : (a.merge b).alerts = (b.merge a).alerts :=
  congrArg (List.map rejectionWarning) (entryPoints_merge_comm a b)

/-- The messages of a field depend on the order, the names of the fields do not. -/
theorem map_fst_fields_merge_comm (a b : ConfigErrors) (entryPoint : String) :
    ((a.merge b).fields entryPoint).map (·.1) = ((b.merge a).fields entryPoint).map (·.1) :=
  SortedMap.keys_congr fun field => by
    simp only [get?_getD, at?_merge, Option.isSome_merge, Bool.or_comm]

end ConfigErrors

end GardenAdmin
