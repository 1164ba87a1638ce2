import GardenAdmin.Proofs.Events.Orderly

/-!
# One link in a run

`Registry.LinkStep r l a link next`: the action `a`, done to `r`, takes link `l` from `link` to
`next`. Whatever a step does to a link is of one of these kinds (`Registry.linkStep_of_step`), and
a link that was not there before is a new one (`Registry.links_of_step`). What concerns one link
only is proved by cases on this relation.
-/

namespace GardenAdmin

namespace Registry

inductive LinkStep (r : Registry) (l : LinkId) : Action → Link → Link → Prop where
  /-- The step is not about this link. -/
  | other (a : Action) (link : Link) : LinkStep r l a link link
  /-- A call to close tells the reader to stop. -/
  | abort {c : CallId} (link : Link) (call : r.calls[c]? = some ⟨.close, .queued⟩)
      (occupied : r.slot = some l) :
      LinkStep r l (.call c) link { link with aborted := true }
  | publish {c : CallId} {link : Link} (opened : r.phase? c = some (.opened l))
      (unstarted : link.reader = .unstarted) (unaborted : link.aborted = false) :
      LinkStep r l (.call c) link { link with reader := .receiving }
  | receive {link : Link} {message : String} {rest : List String}
      (receiving : link.reader = .receiving)
      (inbox : link.inbox = message :: rest) :
      LinkStep r l (.read l) link
        { link with taken := link.taken + 1, reader := Registry.receive message }
  | exhaust {link : Link} (receiving : link.reader = .receiving) (empty : link.inbox = [])
      (noSender : r.hasSender l = false) :
      LinkStep r l (.read l) link { link with reader := .ending }
  | dispatch {link : Link} {e : Event} (dispatching : link.reader = .dispatching e) :
      LinkStep r l (.read l) link
        { link with
          reader := .receiving
          deliveries := link.deliveries ++ [r.callbacks.deliver e] }
  | finish {link : Link} (ending : link.reader = .ending) :
      LinkStep r l (.read l) link { link with reader := .finished }
  | cancel {link : Link} (aborted : link.aborted = true) (running : link.isRunning = true) :
      LinkStep r l (.cancel l) link { link with reader := .finished }
  | accept {link : Link} {p : Push} (waiting : p ∈ r.waiting) (bound : p.link = l)
      (unfinished : link.reader ≠ .finished) (room : link.inbox.length < r.capacity) :
      LinkStep r l (.send p.id) link { link with accepted := link.accepted ++ [p.message] }

/-- What one step does to the links: nothing, a change to one of them, or a new one. -/
inductive LinksStep (r : Registry) (a : Action) : List Link → Prop where
  | same : LinksStep r a r.links
  | modify {l : LinkId} {f : Link → Link}
      (step : ∀ {link}, r.links[l]? = some link → LinkStep r l a link (f link)) :
      LinksStep r a (r.links.modify l f)
  | opened : LinksStep r a (r.links ++ [({} : Link)])

variable {r s : Registry} {a : Action} {l : LinkId} {link next : Link}

theorem linksStep_of_step (order : r.Orderly) (step : Step a r s) : LinksStep r a s.links := by
  cases step with
  | start | reuse | begin | skip | report | refused | fail | join | closed => exact .same
  | push | miss | lose | disconnect | refuse | gate => exact .same
  | draw | store | remove | unsubscribe => exact .same
  | opened => exact .opened
  | take call turn occupied => exact .modify fun _ => .abort _ call occupied
  | publish call =>
    have opened := phase?_of_calls call
    obtain ⟨unstarted, unaborted⟩ := order.unread opened
    refine .modify fun found => .publish opened ?_ ?_
    · simpa [reader?, found] using unstarted
    · simpa [isAborted, found] using unaborted
  | receive found receiving inbox =>
    refine .modify fun h => ?_
    cases found.symm.trans h
    exact .receive receiving inbox
  | exhaust found receiving empty noSender =>
    refine .modify fun h => ?_
    cases found.symm.trans h
    exact .exhaust receiving empty noSender
  | dispatch found dispatching =>
    refine .modify fun h => ?_
    cases found.symm.trans h
    exact .dispatch dispatching
  | finish found ending =>
    refine .modify fun h => ?_
    cases found.symm.trans h
    exact .finish ending
  | cancel found aborted running =>
    refine .modify fun h => ?_
    cases found.symm.trans h
    exact .cancel aborted running
  | accept waiting found unfinished room =>
    refine .modify fun h => ?_
    cases found.symm.trans h
    exact .accept waiting rfl unfinished room

/-- A link stays, and it changes as `LinkStep` tells. -/
theorem linkStep_of_step (order : r.Orderly) (step : Step a r s)
    (found : r.links[l]? = some link) :
    ∃ next, s.links[l]? = some next ∧ LinkStep r l a link next := by
  have h := linksStep_of_step order step
  generalize s.links = links at h ⊢
  cases h with
  | same => exact ⟨link, found, .other a link⟩
  | @modify k f h =>
    rw [List.getElem?_modify, found]
    by_cases e : k = l
    · subst e
      exact ⟨f link, by simp, h found⟩
    · exact ⟨link, by simp [e], .other a link⟩
  | opened =>
    have lt := (List.getElem?_eq_some_iff.1 found).1
    exact ⟨link, by rw [List.getElem?_append_left lt, found], .other a link⟩

/-- Where a link comes from. -/
theorem links_of_step (order : r.Orderly) (step : Step a r s)
    (found : s.links[l]? = some next) :
    (∃ link, r.links[l]? = some link ∧ LinkStep r l a link next) ∨
      l = r.links.length ∧ next = {} := by
  cases before : r.links[l]? with
  | some link =>
    obtain ⟨after, hs, h⟩ := linkStep_of_step order step before
    obtain rfl : after = next := Option.some.inj (hs.symm.trans found)
    exact .inl ⟨link, rfl, h⟩
  | none =>
    have h := linksStep_of_step order step
    generalize s.links = links at h found
    cases h with
    | same => cases before.symm.trans found
    | modify h =>
      rw [List.getElem?_modify, before] at found
      cases found
    | opened =>
      rw [getElem?_concat, before] at found
      split at found
      · next e => exact .inr ⟨e.symm, (Option.some.inj found).symm⟩
      · cases found

theorem receive_ne_ending (message : String) : receive message ≠ .ending := by
  unfold receive
  split <;> nofun

theorem receive_ne_finished (message : String) : receive message ≠ .finished := by
  unfold receive
  split <;> nofun

/-! ## What never changes back -/

theorem LinkStep.started (step : LinkStep r l a link next) (h : link.reader ≠ .unstarted) :
    next.reader ≠ .unstarted := by
  cases step with
  | other | abort | accept => exact h
  | publish | exhaust | dispatch | finish | cancel => exact nofun
  | receive => exact receive_ne_unstarted _

theorem LinkStep.aborted (step : LinkStep r l a link next) (h : link.aborted) : next.aborted := by
  cases step with
  | abort => rfl
  | other | publish | receive | exhaust | dispatch | finish | cancel | accept => exact h

/-- A reader that has finished does nothing more. -/
theorem LinkStep.finished (step : LinkStep r l a link next) (h : link.reader = .finished) :
    next.reader = .finished ∧ next.deliveries = link.deliveries := by
  cases step with
  | other | abort => exact ⟨h, rfl⟩
  | publish _ unstarted => cases h.symm.trans unstarted
  | receive receiving => cases h.symm.trans receiving
  | exhaust receiving => cases h.symm.trans receiving
  | dispatch dispatching => cases h.symm.trans dispatching
  | finish ending => cases h.symm.trans ending
  | cancel aborted running => rw [Link.isRunning, h] at running; cases running
  | accept waiting bound unfinished => exact absurd h unfinished

end Registry

end GardenAdmin
