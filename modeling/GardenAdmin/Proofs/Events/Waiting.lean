import GardenAdmin.Proofs.Events.Delivery
import GardenAdmin.Proofs.Events.SingleLink
import GardenAdmin.Events.Frame
import Mathlib.Data.List.Nodup

/-!
# Messages on their way

Every message that waits for room has a number of its own and is bound for a link that exists
(`Registry.Numbered`). No step of the registry takes a message from those handed to a link, unless
the reader of the link has finished (`Registry.handed_of_step`). The last sender of a link goes
before a reader that was not told to stop reports the end (`Registry.hasSender_of_finished`), and no
call opens a link next to one that has a sender, unless its reader was told to stop
(`Registry.aborted_of_opening`).
-/

namespace GardenAdmin

namespace Registry

variable {url : String} {capacity : Nat} {r s : Registry} {a : Action} {c : CallId} {l : LinkId}
  {p : Push} {link : Link} {actions : List Action}

/-- The messages on their way to a link. -/
def onWay (r : Registry) (l : LinkId) : List Push := r.waiting.filter (·.link = l)

theorem mem_onWay : p ∈ r.onWay l ↔ p ∈ r.waiting ∧ p.link = l := by
  rw [onWay, List.mem_filter, decide_eq_true_iff]

theorem hasSender_of_current (current : r.current = some l) : r.hasSender l := by
  rw [hasSender, decide_eq_true current]
  rfl

theorem hasSender_eq_false_iff :
    r.hasSender l = false ↔ r.current ≠ some l ∧ r.onWay l = [] := by
  rw [hasSender, Bool.or_eq_false_iff, decide_eq_false_iff_not, onWay, List.filter_eq_nil_iff,
    List.any_eq_false]

theorem push_of_current (current : r.current = some l) (message : String) :
    r.push message = { r with
      waiting := r.waiting ++ [⟨r.nextPush, message, l⟩]
      nextPush := r.nextPush + 1 } := by
  unfold push
  split
  · next k e =>
    cases current.symm.trans e
    rfl
  · next e => cases current.symm.trans e

theorem finished_of_receiver? (noReceiver : r.receiver? = none) (current : r.current = some l)
    (found : r.links[l]? = some link) : link.reader = .finished := by
  have := Option.filter_eq_none_iff.1 noReceiver l current
  simpa [found] using this

/-- Messages have numbers of their own, and are bound for links that exist. -/
structure Numbered (r : Registry) : Prop where
  distinct : (r.waiting.map (·.id)).Nodup
  waiting : ∀ p ∈ r.waiting, p.id < r.nextPush ∧ p.link < r.links.length
  lost : ∀ id ∈ r.lost, id < r.nextPush
  current : ∀ l, r.current = some l → l < r.links.length

theorem Numbered.eq_of_id (h : r.Numbered) {q : Push} (hp : p ∈ r.waiting) (hq : q ∈ r.waiting)
    (same : p.id = q.id) : p = q :=
  List.inj_on_of_nodup_map h.distinct hp hq same

theorem mem_waiting_settle {id : PushId} :
    p ∈ (r.settle id).waiting ↔ p ∈ r.waiting ∧ p.id ≠ id := by
  rw [settle, List.mem_filter, decide_eq_true_iff]

theorem onWay_settle (r : Registry) (id : PushId) (l : LinkId) :
    (r.settle id).onWay l = (r.onWay l).filter (·.id ≠ id) :=
  List.filter_comm ..

/-- The messages to other links stay on their way. -/
theorem Numbered.onWay_settle_of_ne (h : r.Numbered) (hp : p ∈ r.waiting) (ne : p.link ≠ l) :
    (r.settle p.id).onWay l = r.onWay l := by
  rw [onWay_settle, List.filter_eq_self]
  intro q hq
  obtain ⟨hq, bound⟩ := mem_onWay.1 hq
  exact decide_eq_true fun same => ne (h.eq_of_id hp hq same.symm ▸ bound)

theorem onWay_eq_singleton (hp : p ∈ r.waiting) (alone : (r.onWay p.link).length ≤ 1) :
    r.onWay p.link = [p] := by
  have mem : p ∈ r.onWay p.link := mem_onWay.2 ⟨hp, rfl⟩
  cases e : r.onWay p.link with
  | nil =>
    rw [e] at mem
    cases mem
  | cons q rest =>
    rw [e] at mem alone
    obtain rfl : rest = [] :=
      List.eq_nil_of_length_eq_zero (Nat.le_zero.1 (Nat.le_of_succ_le_succ alone))
    rw [List.mem_singleton.1 mem]

theorem Numbered.fresh (url : String) (capacity : Nat) :
    (Registry.fresh url capacity).Numbered where
  distinct := .nil
  waiting := nofun
  lost := nofun
  current := nofun

theorem Numbered.congr (h : r.Numbered) (waiting : s.waiting = r.waiting) (lost : s.lost = r.lost)
    (next : s.nextPush = r.nextPush) (links : s.links.length = r.links.length)
    (current : ∀ l, s.current = some l → r.current = some l) : s.Numbered := by
  refine ⟨?_, ?_, ?_, ?_⟩
  · rw [waiting]; exact h.distinct
  · rw [waiting, next, links]; exact h.waiting
  · rw [lost, next]; exact h.lost
  · rw [links]; exact fun l e => h.current l (current l e)

theorem Numbered.settle (h : r.Numbered) (id : PushId) : (r.settle id).Numbered where
  distinct := h.distinct.sublist (List.filter_sublist.map _)
  waiting p hp := h.waiting p (mem_waiting_settle.1 hp).1
  lost := h.lost
  current := h.current

/-- A message is pushed to the link that the server pushes to. -/
theorem Numbered.push (h : r.Numbered) (message : String) (current : r.current = some l) :
    Numbered { r with
      waiting := r.waiting ++ [⟨r.nextPush, message, l⟩]
      nextPush := r.nextPush + 1 } where
  distinct := by
    rw [List.map_append, List.nodup_append]
    refine ⟨h.distinct, List.nodup_singleton _, ?_⟩
    rintro i hi _ hj rfl
    obtain ⟨p, hp, rfl⟩ := List.mem_map.1 hi
    exact Nat.ne_of_lt (h.waiting p hp).1 (List.mem_singleton.1 hj)
  waiting p hp := by
    rcases List.mem_append.1 hp with hp | hp
    · exact ⟨Nat.lt_succ_of_lt (h.waiting p hp).1, (h.waiting p hp).2⟩
    · rw [List.mem_singleton.1 hp]
      exact ⟨Nat.lt_succ_self _, h.current l current⟩
  lost id hid := Nat.lt_succ_of_lt (h.lost id hid)
  current := h.current

/-- A message is lost. -/
theorem Numbered.lose (h : r.Numbered) {id next : PushId} (more : r.nextPush ≤ next)
    (lt : id < next) :
    Numbered { r with lost := id :: r.lost, nextPush := next } where
  distinct := h.distinct
  waiting p hp := ⟨Nat.lt_of_lt_of_le (h.waiting p hp).1 more, (h.waiting p hp).2⟩
  lost i hi := by
    rcases List.mem_cons.1 hi with rfl | hi
    · exact lt
    · exact Nat.lt_of_lt_of_le (h.lost i hi) more
  current := h.current

theorem Numbered.step (h : r.Numbered) (step : Step a r s) : s.Numbered := by
  have same {l : LinkId} {f : Link → Link} : (r.updateLink l f).links.length = r.links.length :=
    List.length_modify ..
  cases step with
  | start | reuse | begin | skip | report | refused | fail | join | closed =>
    exact h.congr rfl rfl rfl rfl fun _ => id
  | refuse | gate | draw | store | remove | unsubscribe => exact h.congr rfl rfl rfl rfl fun _ => id
  | disconnect => exact h.congr rfl rfl rfl rfl nofun
  | take | publish | receive | exhaust | dispatch | finish | cancel =>
    exact h.congr rfl rfl rfl same fun _ => id
  | opened =>
    have grown : (r.links ++ [({} : Link)]).length = r.links.length + 1 := List.length_append
    refine ⟨h.distinct, fun p hp => ?_, h.lost, fun l e => ?_⟩
    · rw [grown]
      exact ⟨(h.waiting p hp).1, Nat.lt_succ_of_lt (h.waiting p hp).2⟩
    · cases e
      rw [grown]
      exact Nat.lt_succ_self _
  | push message current => exact h.push message current
  | miss => exact h.lose (Nat.le_succ _) (Nat.lt_succ_self _)
  | accept => exact (h.settle _).congr rfl rfl rfl same fun _ => id
  | lose waiting => exact (h.settle _).lose (Nat.le_refl _) (h.waiting _ waiting).1

theorem numbered_of_run? (run : (fresh url capacity).run? actions = some s) : s.Numbered :=
  run?_induction (P := fun _ s => s.Numbered) (.fresh url capacity) (fun _ h step => h.step step)
    run

/-! ## Messages handed to a link -/

/-- The messages that a link accepted or that are on their way to it. -/
def handed (r : Registry) (l : LinkId) : List String :=
  r.accepted l ++ (r.onWay l).map (·.message)

theorem handed_eq (hp : p ∈ r.waiting) (alone : (r.onWay p.link).length ≤ 1) :
    r.handed p.link = r.accepted p.link ++ [p.message] := by
  rw [handed, onWay_eq_singleton hp alone]
  rfl

/-- A message that arrives was handed to the link before. -/
theorem handed_accept (h : r.Numbered) (hp : p ∈ r.waiting)
    (found : r.links[p.link]? = some link) (alone : (r.onWay p.link).length ≤ 1) (l : LinkId) :
    (r.accept p).handed l = r.handed l := by
  have left : (r.accept p).onWay l = (r.settle p.id).onWay l := rfl
  rw [handed, accepted_accept found, left]
  split
  · next same =>
    subst same
    rw [handed_eq hp alone, onWay_settle, onWay_eq_singleton hp alone]
    simp
  · next ne => rw [h.onWay_settle_of_ne hp ne, handed]

/-- What a message that is lost leaves. -/
theorem handed_lose (h : r.Numbered) (hp : p ∈ r.waiting) (alone : (r.onWay p.link).length ≤ 1)
    (l : LinkId) : (r.lose p).handed l = if p.link = l then r.accepted l else r.handed l := by
  have left : (r.lose p).handed l = r.accepted l ++ ((r.settle p.id).onWay l).map (·.message) := rfl
  rw [left]
  split
  · next same =>
    subst same
    rw [onWay_settle, onWay_eq_singleton hp alone]
    simp
  · next ne => rw [h.onWay_settle_of_ne hp ne, handed]

/-- Nothing was handed to a link that does not exist. -/
theorem Numbered.handed_eq_nil (h : r.Numbered) (ge : r.links.length ≤ l) :
    r.onWay l = [] ∧ r.handed l = [] := by
  have onWay : r.onWay l = [] := by
    rw [List.eq_nil_iff_forall_not_mem]
    intro p hp
    obtain ⟨hq, rfl⟩ := mem_onWay.1 hp
    exact Nat.not_lt_of_le ge (h.waiting p hq).2
  rw [handed, onWay, accepted, List.getElem?_eq_none ge]
  exact ⟨rfl, rfl⟩

theorem waiting_of_call (step : Step (.call c) r s) : s.waiting = r.waiting := by
  cases step <;> rfl

/-- What a step does to the messages, where one at a time is on its way to a link. Nothing is lost
unless the reader of its link has finished. -/
theorem handed_of_step (h : r.Numbered) (alone : ∀ l, (r.onWay l).length ≤ 1) (step : Step a r s)
    (own : a.isServers = false) :
    s.waiting.Sublist r.waiting ∧ (∀ l, s.handed l = r.handed l) ∧ s.lost = r.lost ∨
      ∃ p link, p ∈ r.waiting ∧ r.links[p.link]? = some link ∧ link.reader = .finished ∧
        s = r.lose p := by
  have same (waiting : s.waiting = r.waiting) (accepted : ∀ l, s.accepted l = r.accepted l)
      (l : LinkId) : s.handed l = r.handed l := by
    rw [handed, accepted, onWay, waiting, handed, onWay]
  cases step with
  | start | reuse | begin | skip | report | refused | fail | join | closed =>
    exact .inl ⟨.refl _, same rfl fun _ => rfl, rfl⟩
  | refuse | gate | draw | store | remove | unsubscribe =>
    exact .inl ⟨.refl _, same rfl fun _ => rfl, rfl⟩
  | opened => exact .inl ⟨.refl _, same rfl (accepted_of_opened rfl), rfl⟩
  | take | publish | receive | exhaust | dispatch | finish | cancel =>
    exact .inl ⟨.refl _, same rfl (accepted_updateLink_of_eq r _ fun _ => rfl), rfl⟩
  | accept waiting found =>
    exact .inl ⟨List.filter_sublist, handed_accept h waiting found (alone _), rfl⟩
  | lose waiting found finished => exact .inr ⟨_, _, waiting, found, finished, rfl⟩
  | push | miss | disconnect => cases own

/-! ## What can go on -/

theorem capacity_of_run? {actions : List Action} (run : r.run? actions = some s) :
    s.capacity = r.capacity := by
  refine run?_induction (P := fun _ s => s.capacity = r.capacity) rfl ?_ run
  intro before a mid next hm ih step
  exact Eq.trans (by cases step <;> rfl) ih

/-- A reader that cannot go on awaits the next message. -/
theorem blocked_of_readStep? (found : r.links[l]? = some link) (started : link.reader ≠ .unstarted)
    (unfinished : link.reader ≠ .finished) (blocked : r.readStep? l = none) :
    link.reader = .receiving ∧ link.inbox = [] ∧ r.hasSender l := by
  simp only [readStep?, found, Option.bind_eq_bind, Option.bind_some] at blocked
  split at blocked
  · next receiving =>
    split at blocked
    · cases blocked
    · next empty =>
      split at blocked
      · next sender => exact ⟨receiving, empty, sender⟩
      · cases blocked
  · cases blocked
  · cases blocked
  · contradiction
  · contradiction

/-- A message reaches a link that has room or is lost. -/
theorem exists_sendStep? (h : r.Numbered) (hp : p ∈ r.waiting)
    (found : r.links[p.link]? = some link)
    (room : link.reader ≠ .finished → link.inbox.length < r.capacity) :
    ∃ s, r.sendStep? p.id = some s := by
  obtain ⟨q, hq⟩ : ∃ q, r.waiting.find? (·.id = p.id) = some q :=
    Option.isSome_iff_exists.1 (List.find?_isSome.2 ⟨p, hp, by simp⟩)
  have same : q = p :=
    h.eq_of_id (List.mem_of_find?_eq_some hq) hp (by simpa using List.find?_some hq)
  subst same
  simp only [sendStep?, hq, found, Option.bind_eq_bind, Option.bind_some]
  split
  · exact ⟨_, rfl⟩
  · next unfinished => exact ⟨_, if_pos (room unfinished)⟩

/-! ## When a reader finishes -/

/-- A reader that nobody told to stop finishes in its own step, in which it reports the end. -/
theorem LinkStep.ending_of_finished {next : Link} (step : LinkStep r l a link next)
    (finished : next.reader = .finished) (unaborted : next.aborted = false) :
    next = link ∨ a = .read l ∧ link.reader = .ending ∧ next.deliveries = link.deliveries := by
  cases step with
  | other => exact .inl rfl
  | finish ending => exact .inr ⟨rfl, ending, rfl⟩
  | receive => exact absurd finished (receive_ne_finished _)
  | accept _ _ unfinished => exact absurd finished unfinished
  | abort => cases unaborted
  | cancel aborted => cases aborted.symm.trans unaborted
  | publish | exhaust | dispatch => cases finished

/-- Such a reader finishes after the last sender of its link has gone. -/
theorem hasSender_of_finished (run : (fresh url capacity).run? actions = some s)
    (found : s.links[l]? = some link) (finished : link.reader = .finished)
    (unaborted : link.aborted = false) : s.hasSender l = false := by
  revert link
  refine run?_induction (P := fun _ s => ∀ {link : Link}, s.links[l]? = some link →
    link.reader = .finished → link.aborted = false → s.hasSender l = false) ?_ ?_ run
  · intro link found
    cases found
  · intro before a mid next hm ih step link' found' finished unaborted
    have order := orderly_of_run? (.fresh url capacity) hm
    rcases links_of_step order step found' with ⟨link, old, linkStep⟩ | ⟨-, rfl⟩
    · refine hasSender_of_step step (List.getElem?_eq_some_iff.1 old).1 ?_
      rcases linkStep.ending_of_finished finished unaborted with rfl | ⟨-, ending, -⟩
      · exact ih old finished unaborted
      · exact (inOrder_of_run? hm).gone old ending
    · cases finished

theorem aborted_of_finished (run : (fresh url capacity).run? actions = some s)
    (found : s.links[l]? = some link) (finished : link.reader = .finished)
    (sender : s.hasSender l) : link.aborted = true := by
  by_contra unaborted
  rw [hasSender_of_finished run found finished (Bool.eq_false_iff.2 unaborted)] at sender
  cases sender

/-- A reader that nobody told to stop reported the end of its link, after the last event. -/
theorem exists_ending_of_run? (run : (fresh url capacity).run? actions = some s)
    (found : s.links[l]? = some link) (finished : link.reader = .finished)
    (unaborted : link.aborted = false) :
    ∃ before after mid ender, actions = before ++ .read l :: after ∧
      (fresh url capacity).run? before = some mid ∧ mid.links[l]? = some ender ∧
      ender.reader = .ending ∧ ender.deliveries = link.deliveries := by
  revert link
  refine run?_induction (P := fun actions s => ∀ {link : Link}, s.links[l]? = some link →
    link.reader = .finished → link.aborted = false →
    ∃ before after mid ender, actions = before ++ .read l :: after ∧
      (fresh url capacity).run? before = some mid ∧ mid.links[l]? = some ender ∧
      ender.reader = .ending ∧ ender.deliveries = link.deliveries) ?_ ?_ run
  · intro link found
    cases found
  · intro history a mid next hm ih step link' found' finished unaborted
    have order := orderly_of_run? (.fresh url capacity) hm
    rcases links_of_step order step found' with ⟨link, old, linkStep⟩ | ⟨-, rfl⟩
    · rcases linkStep.ending_of_finished finished unaborted with rfl | ⟨rfl, ending, same⟩
      · obtain ⟨before, after, first, ender, rfl, rest⟩ := ih old finished unaborted
        exact ⟨before, after ++ [a], first, ender, by simp, rest⟩
      · exact ⟨history, [], mid, link, rfl, hm, old, ending, same.symm⟩
    · cases finished

/-! ## When another link is opened -/

theorem isAborted_iff : r.isAborted l ↔ ∃ link, r.links[l]? = some link ∧ link.aborted = true := by
  rw [isAborted, Option.any_eq_true]

theorem isAborted_of_step (order : r.Orderly) (step : Step a r s) (h : r.isAborted l) :
    s.isAborted l := by
  obtain ⟨link, found, aborted⟩ := isAborted_iff.1 h
  obtain ⟨next, found', linkStep⟩ := linkStep_of_step order step found
  exact isAborted_iff.2 ⟨next, found', linkStep.aborted aborted⟩

/-- A call to close that starts to wait for a reader tells it to stop. -/
theorem joining_of_step (order : r.Orderly) (step : Step a r s)
    (joining : s.phase? c = some (.joining l)) :
    r.phase? c = some (.joining l) ∨ s.isAborted l := by
  have other {d : CallId} {call : Call} (hc : r.calls[d]? = some call) {p : CallPhase}
      (joining : (r.setPhase d p).phase? c = some (.joining l)) (ne : p ≠ .joining l) :
      r.phase? c = some (.joining l) ∨ s.isAborted l := by
    rw [phase?_setPhase hc] at joining
    split at joining
    · exact absurd (Option.some.inj joining) ne
    · exact .inl joining
  cases step with
  | start kind =>
    rw [phase?_start] at joining
    split at joining
    · cases joining
    · exact .inl joining
  | @take _ d k hc turn occupied =>
    obtain ⟨⟨p, hp, -⟩, -⟩ := order.kept occupied
    obtain ⟨link, found, -⟩ := Option.map_eq_some_iff.1 hp
    by_cases same : k = l
    · subst same
      refine .inr (isAborted_iff.2 ⟨{ link with aborted := true }, ?_, rfl⟩)
      exact (links_updateLink found _ k).trans (if_pos rfl)
    · exact other hc joining fun e => same (CallPhase.joining.inj e)
  | reuse hc | begin hc | skip hc | report hc | refused hc => exact other hc joining nofun
  | opened hc | publish hc | fail hc | join hc | closed hc => exact other hc joining nofun
  | receive | exhaust | dispatch | finish | cancel | accept | lose => exact .inl joining
  | push | miss | disconnect | refuse | gate => exact .inl joining
  | draw | store | remove | unsubscribe => exact .inl joining

theorem isAborted_of_joining (run : (fresh url capacity).run? actions = some s)
    (joining : s.phase? c = some (.joining l)) : s.isAborted l := by
  revert joining
  refine run?_induction (P := fun _ s => s.phase? c = some (.joining l) → s.isAborted l)
    (fun joining => by cases joining) ?_ run
  intro before a mid next hm ih step joining
  have order := orderly_of_run? (.fresh url capacity) hm
  exact (joining_of_step order step joining).elim
    (fun waits => isAborted_of_step order step (ih waits)) id

/-- While a call opens a link, the readers of links that have a sender were told to stop. -/
theorem aborted_of_opening (run : (fresh url capacity).run? actions = some s)
    (opening : s.phase? c = some .opening) (found : s.links[l]? = some link)
    (sender : s.hasSender l) : link.aborted := by
  have order := orderly_of_run? (.fresh url capacity) run
  have reader := reader?_of_links found
  by_cases unstarted : link.reader = .unstarted
  · -- the call that holds it would be the one that opens a link
    obtain ⟨d, hd⟩ := order.held (unstarted ▸ reader)
    obtain rfl := order.eq_of_turn (order.turn opening rfl) hd rfl
    cases opening.symm.trans hd
  by_cases finished : link.reader = .finished
  · exact aborted_of_finished run found finished sender
  -- its reader is at work, in the slot or for a call to close
  have running : link.reader.isRunning := by
    cases e : link.reader <;> simp_all [ReaderPhase.isRunning]
  rcases order.owned (isLive_iff.2 ⟨_, reader, running⟩) with slot | ⟨d, hd⟩
  · exact absurd (Option.some.inj (reader.symm.trans (order.idle opening rfl slot))) finished
  · simpa only [isAborted, found, Option.any_some] using isAborted_of_joining run hd

end Registry

end GardenAdmin
