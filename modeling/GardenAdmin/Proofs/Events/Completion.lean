import GardenAdmin.Proofs.Events.Forwarding

/-!
# Forwarding comes to an end

Nothing blocks a feed for good. While the reader of a link has not finished, the forwarder, a
message on its way or the reader itself can go on (`Feed.exists_onward`), and each such step leaves
less work (`Feed.work_of_onward`). So they come to the point where the reader reports the end of the
link (`Feed.exists_run_finished`).
-/

namespace GardenAdmin

/-- The forwarder goes on, a message reaches its link, or the reader of that link goes on. -/
def FeedAction.isOnward (l : LinkId) : FeedAction → Bool
  | .forward | .registry (.send _) => true
  | .registry (.read k) => k = l
  | .registry _ | .hangUp => false

/-- The steps a forwarder has left, with those its messages cost the registry. -/
def Forwarder.work : Forwarder → Nat
  | .reading frames => 5 * frames.length + 1
  | .sending _ frames => 5 * frames.length + 2
  | .ended => 0

namespace Registry

variable {r s : Registry} {l : LinkId} {link : Link}

theorem state_of_ending (found : r.links[l]? = some link) (ending : link.reader = .ending)
    (act : r.act? (.read l) = some s) : s.state = .closed := by
  simp only [act?, readStep?, found, Option.bind_eq_bind, Option.bind_some, ending] at act
  cases act
  rfl

theorem work_push (r : Registry) (message : String) : (r.push message).work ≤ r.work + 3 := by
  unfold push
  split
  · simp only [work, List.length_append, List.length_singleton]
    omega
  · simp only [work]
    omega

end Registry

namespace Feed

variable {sockets : LinkId → List Frame} {url : String} {capacity : Nat} {f g : Feed}
  {a : FeedAction} {actions : List FeedAction} {l : LinkId} {link : Link}

def work (f : Feed) : Nat := f.registry.work + f.forwarder.work

theorem work_of_onward (act : f.act? sockets a = some g) (onward : a.isOnward l) :
    g.work < f.work := by
  unfold work
  cases step_of_act? act with
  | @registry _ b r own act' =>
    refine Nat.add_lt_add_right ?_ _
    cases b with
    | send p => exact Registry.work_sendStep? act'
    | read k => exact Registry.work_readStep? act'
    | start | call | cancel | push | disconnect | refuse | gate => cases onward
    | draw | store | remove | unsubscribe => cases onward
  | opened => cases onward
  | last reading =>
    rw [reading]
    exact Nat.add_lt_add_left (Nat.succ_pos _) _
  | pass reading =>
    rw [reading]
    simp only [Forwarder.work, List.length_cons]
    omega
  | @send _ message frames reading =>
    have := f.registry.work_push message
    rw [reading]
    simp only [Forwarder.work, List.length_cons]
    omega
  | sent sending =>
    rw [sending]
    simp only [Forwarder.work]
    omega
  | cut sending =>
    rw [sending]
    exact Nat.add_lt_add_left (Nat.succ_pos _) _
  | hangUp => cases onward

/-- The forwarder goes on unless its message still waits. -/
theorem exists_forward? (active : f.forwarder ≠ .ended)
    (free : ∀ id frames, f.forwarder = .sending id frames → ∀ p ∈ f.registry.waiting, p.id ≠ id) :
    ∃ g, f.forward? = some g := by
  unfold forward?
  split
  · exact ⟨_, rfl⟩
  · split
    · exact ⟨_, rfl⟩
    · split
      · exact ⟨_, rfl⟩
      · exact ⟨_, rfl⟩
  · next id frames sending =>
    rw [if_neg]
    · split
      · exact ⟨_, rfl⟩
      · exact ⟨_, rfl⟩
    · intro waits
      obtain ⟨p, hp, e⟩ := List.any_eq_true.1 waits
      exact free id frames sending p hp (of_decide_eq_true e)
  · next ended => exact absurd ended active

/-- While the reader of a link has not finished, something goes on. -/
theorem exists_onward (pos : 0 < capacity)
    (run : (Feed.fresh url capacity).run? sockets actions = some f)
    (found : f.registry.links[l]? = some link) (started : link.reader ≠ .unstarted)
    (unfinished : link.reader ≠ .finished) (unaborted : link.aborted = false) :
    ∃ a g, a.isOnward l ∧ f.act? sockets a = some g := by
  obtain ⟨history, hh, -⟩ := exists_history run
  have h := forwarding_of_run? run
  cases blocked : f.registry.readStep? l with
  | some r =>
    refine ⟨.registry (.read l), f.follow sockets r, decide_eq_true rfl, ?_⟩
    exact Option.map_eq_some_iff.2 ⟨r, blocked, rfl⟩
  | none =>
    obtain ⟨-, empty, sender⟩ := Registry.blocked_of_readStep? found started unfinished blocked
    -- its sender is the server, which has a message on its way or the next frame
    have target : f.registry.current = some l := by
      by_contra other
      have lt := (List.getElem?_eq_some_iff.1 found).1
      rcases h.gone lt other with stopped | free
      · rw [Registry.isAborted, found, Option.any_some, unaborted] at stopped
        cases stopped
      · rw [Registry.hasSender_eq_false_iff.2 ⟨other, free⟩] at sender
        cases sender
    by_cases waits : ∃ id frames, f.forwarder = .sending id frames ∧
        ∃ p ∈ f.registry.waiting, p.id = id
    · obtain ⟨_, frames, sending, p, hp, rfl⟩ := waits
      obtain rfl := ((h.sending target sending).1 p hp).1 rfl
      have room (_ : link.reader ≠ .finished) : link.inbox.length < f.registry.capacity := by
        rw [empty, Registry.capacity_of_run? hh]
        exact pos
      obtain ⟨r, sent⟩ :=
        Registry.exists_sendStep? (Registry.numbered_of_run? hh) hp found room
      exact ⟨.registry (.send p.id), f.follow sockets r, rfl,
        Option.map_eq_some_iff.2 ⟨r, sent, rfl⟩⟩
    · have active : f.forwarder ≠ .ended := fun ended => by
        rw [h.current.2 ended] at target
        cases target
      obtain ⟨g, forwards⟩ := exists_forward? active fun id frames sending p hp e =>
        waits ⟨id, frames, sending, p, hp, e⟩
      exact ⟨.forward, g, rfl, forwards⟩

/-- Such a step stops no reader, and a reader that finishes in it reports the end of its link. -/
theorem link_of_onward (order : f.registry.Orderly) (act : f.act? sockets a = some g)
    (onward : a.isOnward l) (found : f.registry.links[l]? = some link)
    (started : link.reader ≠ .unstarted) (unfinished : link.reader ≠ .finished)
    (unaborted : link.aborted = false) :
    ∃ next, g.registry.links[l]? = some next ∧ next.reader ≠ .unstarted ∧ next.aborted = false ∧
      (next.reader = .finished → g.registry.state = .closed) := by
  rcases registry_of_step (step_of_act? act) with same | ⟨b, act, own⟩
  · exact ⟨link, same ▸ found, started, unaborted, fun e => absurd e unfinished⟩
  · obtain ⟨next, found', linkStep⟩ :=
      Registry.linkStep_of_step order (Registry.step_of_act? act) found
    refine ⟨next, found', linkStep.started started, ?_⟩
    cases linkStep with
    | other | accept => exact ⟨unaborted, fun e => absurd e unfinished⟩
    | abort | cancel =>
      rcases own with rfl | server
      · cases onward
      · cases server
    | publish | exhaust | dispatch => exact ⟨unaborted, nofun⟩
    | receive => exact ⟨unaborted, fun e => absurd e (Registry.receive_ne_finished _)⟩
    | finish ending => exact ⟨unaborted, fun _ => Registry.state_of_ending found ending act⟩

/-- The reader of a link comes to its end and reports it. -/
theorem exists_run_finished (pos : 0 < capacity)
    (run : (Feed.fresh url capacity).run? sockets actions = some f)
    (found : f.registry.links[l]? = some link) (started : link.reader ≠ .unstarted)
    (unfinished : link.reader ≠ .finished) (unaborted : link.aborted = false) :
    ∃ more g next, (∀ a ∈ more, a.isOnward l) ∧ f.run? sockets more = some g ∧
      g.registry.links[l]? = some next ∧ next.reader = .finished ∧ next.aborted = false ∧
      g.registry.state = .closed := by
  induction work : f.work using Nat.strongRecOn generalizing f link actions with
  | ind w ih =>
    obtain ⟨a, g, onward, act⟩ := exists_onward pos run found started unfinished unaborted
    obtain ⟨history, hh, -⟩ := exists_history run
    have order := Registry.orderly_of_run? (.fresh url capacity) hh
    obtain ⟨next, found', started', unaborted', closed⟩ :=
      link_of_onward order act onward found started unfinished unaborted
    by_cases finished : next.reader = .finished
    · refine ⟨[a], g, next, ?_, run?_cons act rfl, found', finished, unaborted', closed finished⟩
      exact List.forall_mem_singleton.2 onward
    · have run' : (Feed.fresh url capacity).run? sockets (actions ++ [a]) = some g := by
        rw [run?_append_eq, run]
        exact run?_cons act rfl
      obtain ⟨more, last, next', onwards, rest⟩ :=
        ih g.work (work ▸ work_of_onward act onward) run' found' started' finished unaborted' rfl
      exact ⟨a :: more, last, next', List.forall_mem_cons.2 ⟨onward, onwards⟩,
        run?_cons act rest.1, rest.2⟩

end Feed

end GardenAdmin
