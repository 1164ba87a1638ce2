import GardenAdmin.Proofs.Events.Orderly

/-!
# The calls of a run

Which sorts of calls there are at a moment of a run (`Registry.hasCall`), and which calls there are
after it: the ones it started, in that order (`Registry.map_kind_of_run?`).
-/

namespace GardenAdmin

def CallPhase.isDone : CallPhase → Bool
  | .done _ => true
  | _ => false

theorem CallPhase.isDone_of_isClosing {p : CallPhase} (h : p.isClosing) : p.isDone = false := by
  cases p <;> first | rfl | cases h

/-- The kind of the call that an action starts. -/
def Action.starts? : Action → Option CallKind
  | .start kind => some kind
  | _ => none

namespace Registry

/-- Some call is of that kind. -/
def hasCall (r : Registry) (q : Call → Bool) : Bool := r.calls.any q

variable {r s : Registry} {c : CallId} {call : Call} {q : Call → Bool}

theorem hasCall_iff :
    r.hasCall q ↔ ∃ (c : CallId) (call : Call), r.calls[c]? = some call ∧ q call := by
  simp only [hasCall, List.any_eq_true, List.mem_iff_getElem?]
  exact ⟨fun ⟨call, ⟨c, hc⟩, hq⟩ => ⟨c, call, hc, hq⟩, fun ⟨c, call, hc, hq⟩ => ⟨call, ⟨c, hc⟩, hq⟩⟩

theorem hasCall_start {kind : CallKind} (hq : q { kind } = false) :
    (r.start kind).hasCall q = r.hasCall q := by
  simp [hasCall, Registry.start, hq]

theorem hasCall_start_of_hasCall {kind : CallKind} (h : r.hasCall q) :
    (r.start kind).hasCall q := by
  rw [hasCall, Registry.start, List.any_append, Bool.or_eq_true]
  exact .inl h

theorem hasCall_of_hasCall_setPhase (hc : r.calls[c]? = some call) {p : CallPhase}
    (hq : q { call with phase := p } → q call) (h : (r.setPhase c p).hasCall q) : r.hasCall q := by
  obtain ⟨d, other, hd, hother⟩ := hasCall_iff.1 h
  rw [calls_setPhase hc] at hd
  split at hd
  · cases hd
    exact hasCall_iff.2 ⟨c, call, hc, hq hother⟩
  · exact hasCall_iff.2 ⟨d, other, hd, hother⟩

theorem hasCall_setPhase_of_hasCall (hc : r.calls[c]? = some call) {p : CallPhase}
    (hq : q call → q { call with phase := p }) (h : r.hasCall q) : (r.setPhase c p).hasCall q := by
  obtain ⟨d, other, hd, hother⟩ := hasCall_iff.1 h
  by_cases e : c = d
  · subst e
    obtain rfl : call = other := Option.some.inj (hc.symm.trans hd)
    exact hasCall_iff.2 ⟨c, _, by rw [calls_setPhase hc, if_pos rfl], hq hother⟩
  · exact hasCall_iff.2 ⟨d, other, by rw [calls_setPhase hc, if_neg e, hd], hother⟩

theorem hasCall_setPhase (hc : r.calls[c]? = some call) {p : CallPhase}
    (hq : q { call with phase := p } = q call) : (r.setPhase c p).hasCall q = r.hasCall q :=
  Bool.eq_iff_iff.2
    ⟨hasCall_of_hasCall_setPhase hc (hq ▸ id), hasCall_setPhase_of_hasCall hc (hq ▸ id)⟩

/-- Every call has returned. -/
def isQuiet (r : Registry) : Bool := r.calls.all (·.phase.isDone)

/-- A call to close took a reader out of the slot and has not returned. -/
def isClosing (r : Registry) : Bool := r.hasCall (·.phase.isClosing)

theorem isClosing_of_phase {p : CallPhase} (hp : r.phase? c = some p) (closing : p.isClosing) :
    r.isClosing := by
  obtain ⟨call, hc, rfl⟩ := Option.map_eq_some_iff.1 hp
  exact hasCall_iff.2 ⟨c, call, hc, closing⟩

theorem not_hasCall_of_isQuiet {r : Registry} (quiet : r.isQuiet) {q : Call → Bool}
    (hq : ∀ call, q call → call.phase.isDone = false) : r.hasCall q = false := by
  refine Bool.eq_false_iff.2 fun h => ?_
  obtain ⟨call, hc, h⟩ := List.any_eq_true.1 h
  have := List.all_eq_true.1 quiet call hc
  rw [hq call h] at this
  cases this

/-! ## The calls that were started -/

theorem map_kind_setPhase (r : Registry) (c : CallId) (p : CallPhase) :
    (r.setPhase c p).calls.map (·.kind) = r.calls.map (·.kind) := by
  refine List.ext_getElem? fun d => ?_
  rw [setPhase, List.getElem?_map, List.getElem?_modify, List.getElem?_map]
  cases r.calls[d]? with
  | none => rfl
  | some call =>
    show some _ = some call.kind
    split <;> rfl

theorem map_kind_of_step {r s : Registry} {a : Action} (step : Step a r s) :
    s.calls.map (·.kind) = r.calls.map (·.kind) ++ a.starts?.toList := by
  cases step with
  | start => simp [Registry.start, Action.starts?]
  | reuse | begin | skip | take | report =>
    exact (map_kind_setPhase ..).trans (List.append_nil _).symm
  | refused | opened | publish | fail => exact (map_kind_setPhase ..).trans (List.append_nil _).symm
  | join | closed => exact (map_kind_setPhase ..).trans (List.append_nil _).symm
  | receive | exhaust | dispatch | finish | cancel | accept | lose => exact (List.append_nil _).symm
  | push | miss | disconnect | refuse | gate => exact (List.append_nil _).symm
  | draw | store | remove | unsubscribe => exact (List.append_nil _).symm

/-- The calls of a run are the ones it started. -/
theorem map_kind_of_run? {url : String} {capacity : Nat} {s : Registry} {actions : List Action}
    (run : (fresh url capacity).run? actions = some s) :
    s.calls.map (·.kind) = actions.filterMap Action.starts? := by
  refine run?_induction (P := fun actions s =>
    s.calls.map (·.kind) = actions.filterMap Action.starts?) rfl ?_ run
  intro before a mid next hm ih step
  rw [map_kind_of_step step, ih, List.filterMap_append]
  cases a <;> rfl

theorem hasCall_kind_iff {url : String} {capacity : Nat} {s : Registry} {actions : List Action}
    (run : (fresh url capacity).run? actions = some s) (kind : CallKind) :
    s.hasCall (·.kind = kind) ↔ .start kind ∈ actions := by
  have kinds : s.hasCall (·.kind = kind) ↔ kind ∈ s.calls.map (·.kind) := by simp [hasCall]
  rw [kinds, map_kind_of_run? run, List.mem_filterMap]
  constructor
  · rintro ⟨a, ha, e⟩
    cases a <;> cases e
    exact ha
  · intro h
    exact ⟨_, h, rfl⟩

end Registry

end GardenAdmin
