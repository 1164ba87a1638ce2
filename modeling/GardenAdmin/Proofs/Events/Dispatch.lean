import GardenAdmin.Events.Work
import GardenAdmin.Proofs.Events.Links

/-!
# What a reader dispatches

`Link.InOrder` relates the events a reader has handed over to the messages its link accepted: they
are the decodable ones among the messages the reader took, in that order and without a gap. A
reader that finishes by itself took every message, since nothing reaches a link after its last
sender has gone (`Registry.hasSender_of_step`). From then on the steps of the reader alone lead to
its end (`Registry.exists_reads_finished`).
-/

namespace GardenAdmin

/-- The events among messages: an undecodable message is none. -/
def decoded (messages : List String) : List Event :=
  messages.filterMap fun message => (Event.decode message).toOption

/-- The event that the reader took and has not handed over. -/
def ReaderPhase.pending : ReaderPhase → List Event
  | .dispatching e => [e]
  | .unstarted | .receiving | .ending | .finished => []

structure Link.InOrder (link : Link) : Prop where
  taken : link.taken ≤ link.accepted.length
  /-- Only a reader that was told to stop keeps an event to itself. -/
  dispatched : ∃ rest, link.deliveries.map (·.event) ++ rest =
      decoded (link.accepted.take link.taken) ∧
    (link.reader ≠ .finished ∨ link.aborted = false → rest = link.reader.pending)
  drained : link.reader = .ending ∨ link.reader = .finished ∧ link.aborted = false →
    link.taken = link.accepted.length

theorem decoded_append (as bs : List String) : decoded (as ++ bs) = decoded as ++ decoded bs :=
  List.filterMap_append

theorem pending_receive (message : String) :
    (Registry.receive message).pending = decoded [message] := by
  unfold Registry.receive
  cases h : Event.decode message <;>
    simp [decoded, h, Except.toOption, ReaderPhase.pending]

namespace Link

variable {link : Link}

theorem take_succ_of_inbox {message : String} {rest : List String}
    (inbox : link.inbox = message :: rest) :
    link.accepted.take (link.taken + 1) = link.accepted.take link.taken ++ [message] := by
  unfold Link.inbox at inbox
  rw [List.take_add, inbox]
  rfl

theorem taken_lt_of_inbox {message : String} {rest : List String}
    (inbox : link.inbox = message :: rest) : link.taken < link.accepted.length := by
  unfold Link.inbox at inbox
  have := congrArg List.length inbox
  rw [List.length_drop, List.length_cons] at this
  omega

theorem InOrder.new : InOrder {} where
  taken := Nat.le_refl 0
  dispatched := ⟨[], rfl, fun _ => rfl⟩
  drained h := by rcases h with h | ⟨h, -⟩ <;> cases h

/-- What a reader that is not stopped has handed over. -/
theorem InOrder.dispatched_of (h : link.InOrder)
    (goesOn : link.reader ≠ .finished ∨ link.aborted = false) :
    link.deliveries.map (·.event) ++ link.reader.pending =
      decoded (link.accepted.take link.taken) := by
  obtain ⟨rest, e, pending⟩ := h.dispatched
  rw [← pending goesOn]
  exact e

theorem InOrder.prefix_decoded (h : link.InOrder) :
    link.deliveries.map (·.event) <+: decoded link.accepted := by
  obtain ⟨rest, split, -⟩ := h.dispatched
  have upto : decoded (link.accepted.take link.taken) <+: decoded link.accepted :=
    (List.take_prefix ..).filterMap _
  exact (List.prefix_append ..).trans (split ▸ upto)

/-- The reader has taken every message and handed over their events. -/
theorem InOrder.deliveries_eq (h : link.InOrder)
    (goesOn : link.reader ≠ .finished ∨ link.aborted = false) (idle : link.reader.pending = [])
    (all : link.taken = link.accepted.length) :
    link.deliveries.map (·.event) = decoded link.accepted := by
  have sofar := h.dispatched_of goesOn
  rw [idle, List.append_nil, all, List.take_length] at sofar
  exact sofar

/-- The reader came to the end of its link. -/
theorem InOrder.deliveries_of_finished (h : link.InOrder) (finished : link.reader = .finished)
    (unaborted : link.aborted = false) :
    link.deliveries.map (·.event) = decoded link.accepted := by
  refine h.deliveries_eq (.inr unaborted) ?_ (h.drained (.inr ⟨finished, unaborted⟩))
  rw [finished]
  rfl

end Link

namespace Registry

variable {r s : Registry} {a : Action} {l : LinkId} {link next : Link}

theorem hasSender_of_mem {p : Push} (h : p ∈ r.waiting) : r.hasSender p.link := by
  rw [hasSender, Bool.or_eq_true]
  exact .inr (List.any_eq_true.2 ⟨p, h, decide_eq_true rfl⟩)

/-- Once the last sender of a link has gone, no other one comes. -/
theorem hasSender_of_step (step : Step a r s) (old : l < r.links.length)
    (h : r.hasSender l = false) : s.hasSender l = false := by
  obtain ⟨current, waiting⟩ := (Bool.or_eq_false_iff).1 h
  have fewer (id : PushId) : (r.waiting.filter (·.id ≠ id)).any (·.link = l) = false := by
    rw [List.any_eq_false] at waiting ⊢
    exact fun p hp => waiting p (List.mem_filter.1 hp).1
  cases step with
  | opened =>
    refine Bool.or_eq_false_iff.2 ⟨decide_eq_false fun e => ?_, waiting⟩
    exact Nat.lt_irrefl _ (Option.some.inj e ▸ old)
  | push message target =>
    refine Bool.or_eq_false_iff.2 ⟨current, ?_⟩
    rw [List.any_append, waiting, Bool.false_or, List.any_cons, List.any_nil, Bool.or_false]
    refine decide_eq_false fun e => of_decide_eq_false current ?_
    rw [target, ← e]
  | accept => exact Bool.or_eq_false_iff.2 ⟨current, fewer _⟩
  | lose => exact Bool.or_eq_false_iff.2 ⟨current, fewer _⟩
  | disconnect => exact Bool.or_eq_false_iff.2 ⟨rfl, waiting⟩
  | start | reuse | begin | skip | take | report | refused | publish | fail | join | closed =>
    exact h
  | receive | exhaust | dispatch | finish | cancel | miss | refuse | gate => exact h
  | draw | store | remove | unsubscribe => exact h

/-- A step keeps the order of a link, as long as nothing reaches a reader that reports the end. -/
theorem LinkStep.inOrder (step : LinkStep r l a link next) (h : link.InOrder)
    (gone : link.reader = .ending → r.hasSender l = false) : next.InOrder := by
  cases step with
  | other => exact h
  | abort =>
    refine ⟨h.taken, ?_, ?_⟩
    · obtain ⟨rest, e, pending⟩ := h.dispatched
      exact ⟨rest, e, fun goesOn => pending (goesOn.imp_right fun e => by cases e)⟩
    · rintro (ending | ⟨-, e⟩)
      · exact h.drained (.inl ending)
      · cases e
  | publish opened unstarted unaborted =>
    have sofar := h.dispatched_of (.inr unaborted)
    rw [unstarted] at sofar
    refine ⟨h.taken, ⟨[], sofar, fun _ => rfl⟩, ?_⟩
    rintro (e | ⟨e, -⟩) <;> cases e
  | @receive _ message rest receiving inbox =>
    have sofar := h.dispatched_of (.inl (receiving ▸ nofun))
    rw [receiving] at sofar
    refine ⟨Link.taken_lt_of_inbox inbox, ⟨_, ?_, fun _ => rfl⟩, ?_⟩
    · rw [Link.take_succ_of_inbox inbox, decoded_append, ← sofar, pending_receive]
      simp [ReaderPhase.pending]
    · rintro (e | ⟨e, -⟩)
      · exact absurd e (receive_ne_ending message)
      · exact absurd e (receive_ne_finished message)
  | exhaust receiving empty =>
    have sofar := h.dispatched_of (.inl (receiving ▸ nofun))
    rw [receiving] at sofar
    refine ⟨h.taken, ⟨[], sofar, fun _ => rfl⟩, fun _ => ?_⟩
    exact Nat.le_antisymm h.taken (List.drop_eq_nil_iff.1 empty)
  | dispatch dispatching =>
    have sofar := h.dispatched_of (.inl (dispatching ▸ nofun))
    rw [dispatching] at sofar
    refine ⟨h.taken, ⟨[], ?_, fun _ => rfl⟩, ?_⟩
    · rw [List.map_append, List.append_nil]
      exact sofar
    · rintro (e | ⟨e, -⟩) <;> cases e
  | finish ending =>
    have sofar := h.dispatched_of (.inl (ending ▸ nofun))
    rw [ending] at sofar
    exact ⟨h.taken, ⟨[], sofar, fun _ => rfl⟩, fun _ => h.drained (.inl ending)⟩
  | cancel aborted =>
    refine ⟨h.taken, ?_, ?_⟩
    · obtain ⟨rest, e, -⟩ := h.dispatched
      refine ⟨rest, e, ?_⟩
      rintro (unfinished | unaborted)
      · exact absurd rfl unfinished
      · cases aborted.symm.trans unaborted
    · rintro (e | ⟨-, unaborted⟩)
      · cases e
      · cases aborted.symm.trans unaborted
  | accept waiting bound unfinished =>
    refine ⟨?_, ?_, ?_⟩
    · exact Nat.le_trans h.taken (by simp)
    · rw [List.take_append_of_le_length h.taken]
      exact h.dispatched
    · rintro (ending | ⟨finished, -⟩)
      · have sender := hasSender_of_mem waiting
        rw [bound, gone ending] at sender
        cases sender
      · exact absurd finished unfinished

/-- Every link is in order, and nothing reaches a reader that reports the end of its link. -/
structure InOrder (r : Registry) : Prop where
  links : ∀ {l : LinkId} {link : Link}, r.links[l]? = some link → link.InOrder
  gone : ∀ {l : LinkId} {link : Link}, r.links[l]? = some link → link.reader = .ending →
    r.hasSender l = false

theorem InOrder.fresh (url : String) (capacity : Nat) : (Registry.fresh url capacity).InOrder where
  links found := by cases found
  gone found := by cases found

theorem InOrder.step (h : r.InOrder) (order : r.Orderly) (step : Step a r s) : s.InOrder := by
  constructor
  · intro l next found
    rcases links_of_step order step found with ⟨link, old, linkStep⟩ | ⟨-, rfl⟩
    · exact linkStep.inOrder (h.links old) (h.gone old)
    · exact .new
  · intro l next found ending
    rcases links_of_step order step found with ⟨link, old, linkStep⟩ | ⟨-, rfl⟩
    · refine hasSender_of_step step (List.getElem?_eq_some_iff.1 old).1 ?_
      cases linkStep with
      | other | abort | accept => exact h.gone old ending
      | exhaust _ _ noSender => exact noSender
      | receive => exact absurd ending (receive_ne_ending _)
      | publish | dispatch | finish | cancel => cases ending
    · cases ending

theorem inOrder_of_run? {url : String} {capacity : Nat} {actions : List Action}
    (run : (Registry.fresh url capacity).run? actions = some s) : s.InOrder := by
  refine run?_induction (P := fun _ s => s.InOrder) (.fresh url capacity) ?_ run
  intro before a mid next hm h step
  exact h.step (orderly_of_run? (.fresh url capacity) hm) step

/-! ## Undecodable messages -/

theorem updateLink_congr (found : r.links[l]? = some link) {f g : Link → Link}
    (h : f link = g link) : r.updateLink l f = r.updateLink l g := by
  have : r.links.modify l f = r.links.modify l g := by
    refine List.ext_getElem? fun k => ?_
    rw [List.getElem?_modify, List.getElem?_modify]
    split
    · next e =>
      subst e
      rw [found]
      exact congrArg some h
    · rfl
  rw [updateLink, this, updateLink]

theorem readStep?_of_undecodable (found : r.links[l]? = some link)
    (receiving : link.reader = .receiving) {message : String} {rest : List String}
    (inbox : link.inbox = message :: rest) (undecodable : ∀ e, Event.decode message ≠ .ok e) :
    r.readStep? l = some (r.updateLink l fun link => { link with taken := link.taken + 1 }) := by
  have dropped : receive message = .receiving := by
    unfold receive
    split
    · next e ok => exact absurd ok (undecodable e)
    · rfl
  have step : r.readStep? l = some (r.updateLink l fun link =>
      { link with taken := link.taken + 1, reader := receive message }) := by
    simp only [readStep?, found, Option.bind_eq_bind, Option.bind_some, receiving, inbox]
  rw [step, updateLink_congr found]
  rw [dropped, receiving]

/-! ## When the last sender has gone -/

/-- A reader adds nothing to its link and is not told to stop by what it does itself. -/
theorem LinkStep.read (step : LinkStep r l (.read l) link next) :
    next.accepted = link.accepted ∧ next.aborted = link.aborted := by
  cases step with
  | other | receive | exhaust | dispatch | finish => exact ⟨rfl, rfl⟩

/-- A reader that was started, that nothing can reach and that has nothing left to do has finished.
-/
theorem finished_of_readStep? (found : r.links[l]? = some link) (started : link.reader ≠ .unstarted)
    (noSender : r.hasSender l = false) (rest : r.readStep? l = none) : link.reader = .finished := by
  simp only [readStep?, found, Option.bind_eq_bind, Option.bind_some] at rest
  split at rest
  · split at rest
    · cases rest
    · rw [noSender] at rest
      cases rest
  · cases rest
  · cases rest
  · contradiction
  · assumption

/-- The steps of the reader alone lead there. -/
theorem exists_reads_finished (order : r.Orderly) (found : r.links[l]? = some link)
    (started : link.reader ≠ .unstarted) (noSender : r.hasSender l = false) :
    ∃ n t last, r.run? (List.replicate n (.read l)) = some t ∧ t.links[l]? = some last ∧
      last.reader = .finished ∧ last.accepted = link.accepted ∧ last.aborted = link.aborted := by
  induction work : r.work using Nat.strongRecOn generalizing r link with
  | ind w ih =>
    cases act : r.readStep? l with
    | none =>
      have finished := finished_of_readStep? found started noSender act
      exact ⟨0, r, link, rfl, found, finished, rfl, rfl⟩
    | some s =>
      have step := step_of_readStep? act
      have old := (List.getElem?_eq_some_iff.1 found).1
      obtain ⟨next, found', linkStep⟩ := linkStep_of_step order step found
      obtain ⟨n, t, last, run, there, finished, accepted, aborted⟩ :=
        ih s.work (work ▸ work_readStep? act) (order.step step) found'
          (linkStep.started started) (hasSender_of_step step old noSender) rfl
      obtain ⟨accepted', aborted'⟩ := linkStep.read
      exact ⟨n + 1, t, last, run?_cons act run, there, finished, accepted.trans accepted',
        aborted.trans aborted'⟩

end Registry

end GardenAdmin
