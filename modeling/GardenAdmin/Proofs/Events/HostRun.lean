import GardenAdmin.Proofs.Events.Waiting

/-!
# What a host does is a run of its registry

A host lets its tasks take turns and carries out the reactions of callbacks. All of it is a run of
the registry in which nothing comes from outside (`Host.reaches_rest`), and it goes on until no task
can (`Host.ready_rest`). Nothing then waits for a link whose reader was started
(`Registry.waiting_eq_nil_of_ready`).
-/

namespace GardenAdmin

/-- Calls, readers, messages and the reactions of callbacks do this. -/
def Action.isInternal : Action → Bool
  | .call _ | .read _ | .cancel _ | .send _ | .draw .. | .store _ | .remove _ => true
  | .start _ | .push _ | .disconnect | .refuse _ | .gate _ | .unsubscribe _ => false

theorem Action.isServers_of_isInternal {a : Action} (internal : a.isInternal) :
    a.isServers = false := by
  cases a <;> first | rfl | cases internal

namespace Registry

variable {url : String} {capacity : Nat} {r s t : Registry} {a : Action} {l : LinkId} {link : Link}

/-- The registry comes there when nothing comes from outside. -/
def Reaches (r s : Registry) : Prop :=
  ∃ actions : List Action, (∀ a ∈ actions, a.isInternal) ∧ r.run? actions = some s

namespace Reaches

theorem refl (r : Registry) : r.Reaches r := ⟨[], nofun, rfl⟩

theorem trans (first : r.Reaches s) (second : s.Reaches t) : r.Reaches t := by
  obtain ⟨before, internal, run⟩ := first
  obtain ⟨after, internal', run'⟩ := second
  refine ⟨before ++ after, List.forall_mem_append.2 ⟨internal, internal'⟩, ?_⟩
  rw [run?, List.foldlM_append]
  exact Option.bind_eq_some_iff.2 ⟨s, run, run'⟩

theorem single (internal : a.isInternal) (act : r.act? a = some s) : r.Reaches s :=
  ⟨[a], List.forall_mem_singleton.2 internal, run?_cons act rfl⟩

/-- A callback that was called reacts. -/
theorem after (r : Registry) (reaction : Reaction) :
    r.Reaches { r with callbacks := reaction.after r.callbacks } := by
  cases reaction with
  | nothing | panic | feedPanel => exact refl r
  | remove name => exact single (a := .remove name) rfl rfl
  | register name =>
    have drawn := single (r := r) (a := .draw name { tag := name }) rfl rfl
    refine drawn.trans ?_
    show Reaches _ { r with callbacks := ((r.callbacks.draw name { tag := name }).2.store?
      (r.callbacks.draw name { tag := name }).1).getD (r.callbacks.draw name { tag := name }).2 }
    cases stored : (r.callbacks.draw name { tag := name }).2.store?
        (r.callbacks.draw name { tag := name }).1 with
    | none => exact refl _
    | some callbacks =>
      refine single (a := .store (r.callbacks.draw name { tag := name }).1) rfl ?_
      exact Option.map_eq_some_iff.2 ⟨callbacks, stored, rfl⟩

end Reaches

/-! ## While no call is under way -/

/-- No call is under way, and nothing was done to the links but what their readers do. -/
structure Idle (r s : Registry) : Prop where
  quiet : s.isQuiet
  current : s.current = r.current
  slot : s.slot = r.slot
  length : s.links.length = r.links.length
  aborted : ∀ l, s.isAborted l = r.isAborted l

theorem Idle.refl (quiet : r.isQuiet) : r.Idle r := ⟨quiet, rfl, rfl, rfl, fun _ => rfl⟩

theorem Idle.trans (first : r.Idle s) (second : s.Idle t) : r.Idle t :=
  ⟨second.quiet, second.current.trans first.current, second.slot.trans first.slot,
    second.length.trans first.length, fun l => (second.aborted l).trans (first.aborted l)⟩

theorem phase_of_isQuiet (quiet : r.isQuiet) {c : CallId} {call : Call}
    (hc : r.calls[c]? = some call) : call.phase.isDone :=
  List.all_eq_true.1 quiet call (List.mem_of_getElem? hc)

theorem Idle.of_step (quiet : r.isQuiet) (internal : a.isInternal) (step : Step a r s) :
    r.Idle s := by
  cases step with
  | reuse hc | begin hc | skip hc | take hc => cases phase_of_isQuiet quiet hc
  | report hc | refused hc | opened hc | publish hc => cases phase_of_isQuiet quiet hc
  | fail hc | join hc | closed hc => cases phase_of_isQuiet quiet hc
  | receive | exhaust | dispatch | finish | cancel | accept =>
    exact ⟨quiet, rfl, rfl, List.length_modify .., isAborted_updateLink_of_eq r _ fun _ => rfl⟩
  | lose | draw | store | remove => exact ⟨quiet, rfl, rfl, rfl, fun _ => rfl⟩
  | start | push | miss | disconnect | refuse | gate | unsubscribe => cases internal

theorem Idle.of_reaches (quiet : r.isQuiet) (reaches : r.Reaches s) : r.Idle s := by
  obtain ⟨actions, internal, run⟩ := reaches
  revert internal
  refine run?_induction (P := fun actions s => (∀ a ∈ actions, a.isInternal) → r.Idle s)
    (fun _ => .refl quiet) ?_ run
  intro before a mid next _ ih step internal
  have sofar := ih fun b hb => internal b (List.mem_append_left _ hb)
  have own := internal a (List.mem_append_right _ (.head _))
  exact sofar.trans (.of_step sofar.quiet own step)

theorem step?_of_ready (ready : r.ready = []) {t : Task} (ht : t ∈ r.tasks) : t.step? r = none := by
  rw [Registry.ready, List.filter_eq_nil_iff] at ready
  simpa using ready t ht

theorem readStep?_of_ready (ready : r.ready = []) (found : r.links[l]? = some link) :
    r.readStep? l = none := by
  have lt := (List.getElem?_eq_some_iff.1 found).1
  have blocked := step?_of_ready ready (t := .reader l) (by simp [tasks, lt])
  simp only [Task.step?, Option.orElse_eq_orElse, Option.orElse_eq_or,
    Option.or_eq_none_iff] at blocked
  exact blocked.2

/-- A link whose reader is still to be started is in the hands of a call. -/
theorem started_of_isQuiet (order : r.Orderly) (quiet : r.isQuiet)
    (found : r.links[l]? = some link) : link.reader ≠ .unstarted := by
  intro unstarted
  obtain ⟨c, hc⟩ := order.held (unstarted ▸ reader?_of_links found)
  obtain ⟨call, hc, opened⟩ := Option.map_eq_some_iff.1 hc
  have done := phase_of_isQuiet quiet hc
  rw [opened] at done
  cases done

/-- Where nothing can go on, no message waits. -/
theorem waiting_eq_nil_of_ready {actions : List Action} (pos : 0 < capacity)
    (run : (fresh url capacity).run? actions = some s) (quiet : s.isQuiet) (ready : s.ready = []) :
    s.waiting = [] := by
  have numbered := numbered_of_run? run
  have order := orderly_of_run? (.fresh url capacity) run
  refine List.eq_nil_iff_forall_not_mem.2 fun p hp => ?_
  have found := List.getElem?_eq_getElem (numbered.waiting p hp).2
  have started := started_of_isQuiet order quiet found
  obtain ⟨r, sent⟩ := exists_sendStep? numbered hp found fun unfinished => by
    have blocked := readStep?_of_ready ready found
    obtain ⟨-, empty, -⟩ := blocked_of_readStep? found started unfinished blocked
    rw [empty, capacity_of_run? run]
    exact pos
  have blocked := step?_of_ready ready (t := .push p.id)
    (List.mem_append_right _ (List.mem_map.2 ⟨p, hp, rfl⟩))
  cases sent.symm.trans blocked

end Registry

namespace Host

variable {h g : Host} {t : Task} {queue : List Task}

theorem registry_foldl_call (h : Host) (e : Event) (called : List Callback) :
    (called.foldl (call · e) h).registry = h.registry := by
  induction called generalizing h with
  | nil => rfl
  | cons c called ih => rw [List.foldl_cons, ih, registry_call]

theorem reaches_foldl_after (r : Registry) (called : List Callback) :
    r.Reaches { r with
      callbacks := called.foldl (fun c callback => callback.reaction.after c) r.callbacks } := by
  induction called generalizing r with
  | nil => exact .refl r
  | cons c called ih => exact (Registry.Reaches.after r c.reaction).trans (ih _)

theorem reaches_deliver (h : Host) (d : Delivery) : h.registry.Reaches (h.deliver d).registry := by
  simp only [deliver, registry_foldl_call]
  exact reaches_foldl_after ..

theorem reaches_follow (h : Host) (r : Registry) (t : Task) :
    r.Reaches (h.follow r t).registry := by
  cases t with
  | call c =>
    simp only [follow]
    split
    · exact .refl r
    · exact .refl r
  | reader l =>
    simp only [follow]
    generalize ((r.links[l]?).map _).getD [] = made
    have (h : Host) : h.registry.Reaches (made.foldl deliver h).registry := by
      induction made generalizing h with
      | nil => exact .refl _
      | cons d made ih => exact (reaches_deliver h d).trans (ih _)
    exact this { h with registry := r }
  | push p => exact .refl r

/-- A task takes an internal step. -/
theorem reaches_step? (hs : h.step? t = some g) : h.registry.Reaches g.registry := by
  obtain ⟨r, hr, rfl⟩ := Option.map_eq_some_iff.1 hs
  refine .trans ?_ (reaches_follow h r t)
  cases t with
  | call c => exact .single (a := .call c) rfl hr
  | reader l =>
    simp only [Task.step?, Option.orElse_eq_orElse, Option.orElse_eq_or,
      Option.or_eq_some_iff] at hr
    rcases hr with cancel | ⟨-, read⟩
    · exact .single (a := .cancel l) rfl cancel
    · exact .single (a := .read l) rfl read
  | push p => exact .single (a := .send p) rfl hr

theorem reaches_runTasks (queue : List Task) (h : Host) :
    h.registry.Reaches (h.runTasks queue).registry := by
  fun_induction runTasks queue h with
  | case1 h => exact .refl _
  | case2 h t rest _ ih => exact ih
  | case3 h t rest g hs ih => exact (reaches_step? hs).trans ih

/-- Where all tasks that can go on are in the queue, none can in the end. -/
theorem ready_runTasks (queue : List Task) (h : Host)
    (all : ∀ t ∈ h.registry.ready, t ∈ queue) : (h.runTasks queue).registry.ready = [] := by
  fun_induction runTasks queue h with
  | case1 h => exact List.eq_nil_iff_forall_not_mem.2 fun t ht => nomatch all t ht
  | case2 h t rest blocked ih =>
    refine ih fun t' ht => ?_
    rcases List.mem_cons.1 (all t' ht) with rfl | ht'
    · have able := (List.mem_filter.1 ht).2
      rw [step?, Option.map_eq_none_iff] at blocked
      rw [blocked] at able
      cases able
    · exact ht'
  | case3 h t rest g hs ih =>
    refine ih fun t' ht => ?_
    by_cases queued : t' ∈ t :: rest
    · exact List.mem_append_left _ queued
    · exact List.mem_append_right _ (List.mem_filter.2 ⟨ht, decide_eq_true queued⟩)

theorem reaches_rest (h : Host) : h.registry.Reaches h.rest.registry := reaches_runTasks ..

theorem ready_rest (h : Host) : h.rest.registry.ready = [] := ready_runTasks _ _ fun _ => id

/-- A message that a host pushes arrives, or nothing can go on. -/
theorem reaches_push (h : Host) (message : String) :
    (h.registry.push message).Reaches (h.push message).2.registry ∧
      ((∀ p ∈ (h.push message).2.registry.waiting, p.id ≠ h.registry.nextPush) ∨
        (h.push message).2.registry.ready = []) := by
  have arrives : (h.registry.push message).Reaches
      ((h.act (.push message)).act (.send h.registry.nextPush)).registry := by
    show Registry.Reaches _ (((h.registry.push message).act? _).getD (h.registry.push message))
    cases act : (h.registry.push message).act? (.send h.registry.nextPush) with
    | none => exact .refl _
    | some r => exact .single rfl act
  unfold push
  dsimp only
  split
  · exact ⟨arrives.trans (reaches_rest _), .inr (ready_rest _)⟩
  · next gone =>
    refine ⟨arrives, .inl fun p hp e => gone ?_⟩
    exact List.any_eq_true.2 ⟨p, hp, decide_eq_true e⟩

end Host

end GardenAdmin
