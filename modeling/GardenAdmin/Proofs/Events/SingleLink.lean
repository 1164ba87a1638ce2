import GardenAdmin.Proofs.Events.Calls
import GardenAdmin.Proofs.Events.Links

/-!
# One link at a time

No reader is left behind and no second one is started beside it, however the calls to connect and to
close take turns. That is read off `Registry.Orderly`. Two more invariants are about runs in which
nothing ends a link: there is then one link at most (`Registry.Lone`), and a call to connect that
returned without an error found it or opened it (`Registry.links_ne_nil_of_run?`).
-/

namespace GardenAdmin

/-- A call to connect that returned without an error. -/
def Call.isServed (c : Call) : Bool := decide (c.kind = .connect) && decide (c.phase = .done none)

/-- The server refused a link to the call. -/
def CallPhase.isRefused : CallPhase → Bool
  | .refused _ | .done (some _) => true
  | _ => false

theorem Call.isServed_of_isDone {c : Call} (connect : c.kind = .connect) (done : c.phase.isDone)
    (notRefused : c.phase.isRefused = false) : c.isServed := by
  obtain ⟨kind, phase⟩ := c
  cases connect
  cases phase with
  | done failure =>
    cases failure with
    | none => rfl
    | some e => cases notRefused
  | queued | starting | opening | opened | refused | joining | joined => cases done

namespace Registry

variable {url : String} {capacity : Nat} {r s : Registry} {a : Action} {c : CallId} {l : LinkId}

/-! ## What a step leaves alone -/

theorem callbacks_of_call (step : Step (.call c) r s) : s.callbacks = r.callbacks := by
  cases step <;> rfl

/-- A call moves in its own steps only. -/
theorem phase?_of_step (step : Step a r s) (other : a ≠ .call c) {p : CallPhase}
    (hp : r.phase? c = some p) : s.phase? c = some p := by
  have moved {d : CallId} {call : Call} (hc : r.calls[d]? = some call) (ne : a ≠ .call c)
      (ha : a = .call d) (q : CallPhase) : (r.setPhase d q).phase? c = some p := by
    rw [phase?_setPhase hc, if_neg]
    · exact hp
    · rintro rfl
      exact ne ha
  cases step with
  | start kind =>
    rw [phase?_start, if_neg]
    · exact hp
    · rintro rfl
      simp [phase?] at hp
  | reuse call | begin call | skip call | take call => exact moved call other rfl _
  | report call | refused call | opened call | publish call => exact moved call other rfl _
  | fail call | join call | closed call => exact moved call other rfl _
  | receive | exhaust | dispatch | finish | cancel | accept | lose => exact hp
  | push | miss | disconnect | refuse | gate => exact hp
  | draw | store | remove | unsubscribe => exact hp

/-- What adds a link, and what turns the server to another one. -/
theorem opened_of_step (step : Step a r s) :
    (s.links.length = r.links.length ∧ (a ≠ .disconnect → s.current = r.current)) ∨
      ∃ c kind, a = .call c ∧ r.calls[c]? = some ⟨kind, .opening⟩ ∧
        s.links = r.links ++ [({} : Link)] ∧ s.current = some r.links.length := by
  have same {l : LinkId} {f : Link → Link} : (r.updateLink l f).links.length = r.links.length :=
    List.length_modify ..
  cases step with
  | opened call => exact .inr ⟨_, _, rfl, call, rfl, rfl⟩
  | disconnect => exact .inl ⟨rfl, fun ne => absurd rfl ne⟩
  | take | publish => exact .inl ⟨same, fun _ => rfl⟩
  | receive | exhaust | dispatch | finish | cancel | accept => exact .inl ⟨same, fun _ => rfl⟩
  | start | reuse | begin | skip | report | refused => exact .inl ⟨rfl, fun _ => rfl⟩
  | fail | join | closed | push | miss | lose | refuse | gate => exact .inl ⟨rfl, fun _ => rfl⟩
  | draw | store | remove | unsubscribe => exact .inl ⟨rfl, fun _ => rfl⟩

theorem length_links_le_of_step (step : Step a r s) : r.links.length ≤ s.links.length := by
  rcases opened_of_step step with ⟨e, -⟩ | ⟨c, kind, -, -, e, -⟩
  · exact Nat.le_of_eq e.symm
  · rw [e, List.length_append]
    exact Nat.le_add_right ..

/-! ## Runs in which nothing ends a link -/

/-- There is one link at most, the server pushes to it, and nothing has ended it. -/
structure Lone (r : Registry) : Prop where
  length : r.links.length ≤ 1
  current : r.links ≠ [] → r.current = some 0
  unended : ∀ {l : LinkId} {link : Link}, r.links[l]? = some link →
    link.aborted = false ∧ link.reader ≠ .ending ∧ link.reader ≠ .finished

/-- No call opens a second link. -/
theorem Lone.links_eq_nil (h : r.Lone) (order : r.Orderly) {kind : CallKind}
    (hc : r.calls[c]? = some ⟨kind, .opening⟩) (noClosing : r.isClosing = false) :
    r.links = [] := by
  have hp := phase?_of_calls hc
  rw [← List.length_eq_zero_iff]
  by_contra ne
  obtain ⟨link, found⟩ : ∃ link, r.links[0]? = some link :=
    ⟨_, List.getElem?_eq_getElem (Nat.pos_of_ne_zero ne)⟩
  obtain ⟨-, notEnding, notFinished⟩ := h.unended found
  have reader := reader?_of_links found
  by_cases unstarted : link.reader = .unstarted
  · -- another call would be opening it
    obtain ⟨d, hd⟩ := order.held (unstarted ▸ reader)
    obtain rfl := order.eq_of_turn (order.turn hp rfl) hd rfl
    cases hp.symm.trans hd
  · -- its reader would be at work, in the slot
    have running : link.reader.isRunning := by
      cases e : link.reader <;> simp_all [ReaderPhase.isRunning]
    rcases order.owned (isLive_iff.2 ⟨_, reader, running⟩) with slot | ⟨d, hd⟩
    · have ended := order.idle hp rfl slot
      rw [reader] at ended
      exact notFinished (Option.some.inj ended)
    · have := isClosing_of_phase hd rfl
      rw [noClosing] at this
      cases this

theorem not_isClosing_of_not_hasCall (order : r.Orderly)
    (noClose : r.hasCall (·.kind = .close) = false) : r.isClosing = false := by
  refine Bool.eq_false_iff.2 fun closing => ?_
  obtain ⟨c, call, hc, closing⟩ := hasCall_iff.1 closing
  have : r.hasCall (·.kind = .close) :=
    hasCall_iff.2 ⟨c, call, hc, decide_eq_true ((order.fits hc).2 closing)⟩
  rw [noClose] at this
  cases this

theorem Lone.unended_of_linkStep (h : r.Lone) (noClose : r.hasCall (·.kind = .close) = false)
    {link next : Link} (found : r.links[l]? = some link) (step : LinkStep r l a link next) :
    next.aborted = false ∧ next.reader ≠ .ending ∧ next.reader ≠ .finished := by
  obtain ⟨unaborted, notEnding, notFinished⟩ := h.unended found
  cases step with
  | other | accept => exact ⟨unaborted, notEnding, notFinished⟩
  | abort _ call =>
    have : r.hasCall (·.kind = .close) := hasCall_iff.2 ⟨_, _, call, rfl⟩
    rw [noClose] at this
    cases this
  | publish | dispatch => exact ⟨unaborted, nofun, nofun⟩
  | receive => exact ⟨unaborted, receive_ne_ending _, receive_ne_finished _⟩
  | exhaust receiving empty noSender =>
    have lt : l < r.links.length := (List.getElem?_eq_some_iff.1 found).1
    have first : l = 0 := Nat.lt_one_iff.1 (Nat.lt_of_lt_of_le lt h.length)
    have sender : r.hasSender l := by
      rw [hasSender, h.current (List.ne_nil_of_length_pos (Nat.zero_lt_of_lt lt)), first]
      rfl
    rw [noSender] at sender
    cases sender
  | finish ending => exact absurd ending notEnding
  | cancel aborted => cases unaborted.symm.trans aborted

theorem Lone.step (h : r.Lone) (order : r.Orderly) (noClose : r.hasCall (·.kind = .close) = false)
    (connected : a ≠ .disconnect) (step : Step a r s) : s.Lone := by
  rcases opened_of_step step with ⟨length, current⟩ | ⟨c, kind, rfl, hc, links, current⟩
  · refine ⟨length ▸ h.length, ?_, ?_⟩
    · intro ne
      rw [current connected]
      refine h.current fun e => ne ?_
      rw [← List.length_eq_zero_iff, length, e]
      rfl
    · intro l next found
      rcases links_of_step order step found with ⟨link, old, linkStep⟩ | ⟨rfl, -⟩
      · exact h.unended_of_linkStep noClose old linkStep
      · have lt := (List.getElem?_eq_some_iff.1 found).1
        rw [length] at lt
        exact absurd lt (Nat.lt_irrefl _)
  · have none := h.links_eq_nil order hc (not_isClosing_of_not_hasCall order noClose)
    rw [none] at links current
    refine ⟨?_, fun _ => current, ?_⟩
    · rw [links]
      exact Nat.le_refl 1
    · intro l next found
      rw [links] at found
      obtain rfl : next = {} := List.mem_singleton.1 (List.mem_of_getElem? found)
      exact ⟨rfl, nofun, nofun⟩

theorem lone_of_run? {actions : List Action} (run : (fresh url capacity).run? actions = some s)
    (noEnd : ∀ a ∈ actions, a ≠ .start .close ∧ a ≠ .disconnect) : s.Lone := by
  revert noEnd
  refine run?_induction (P := fun actions s =>
    (∀ a ∈ actions, a ≠ .start .close ∧ a ≠ .disconnect) → s.Lone) ?_ ?_ run
  · intro _
    exact ⟨Nat.zero_le 1, fun ne => absurd rfl ne, nofun⟩
  · intro before a mid next hm ih step noEnd
    have past := fun b hb => noEnd b (List.mem_append_left _ hb)
    have noClose : mid.hasCall (·.kind = .close) = false := by
      rw [Bool.eq_false_iff, ne_eq, hasCall_kind_iff hm]
      exact fun started => (past _ started).1 rfl
    have connected := (noEnd a (List.mem_append_right _ (.head _))).2
    exact (ih past).step (orderly_of_run? (.fresh url capacity) hm) noClose connected step

/-! ## Calls to connect that returned -/

/-- A call to connect that returned without an error opened a link or found one. -/
theorem links_ne_nil_of_step (h : r.hasCall Call.isServed → r.links ≠ []) (order : r.Orderly)
    (step : Step a r s) (served : s.hasCall Call.isServed) : s.links ≠ [] := by
  have keep (ne : r.links ≠ []) : s.links ≠ [] :=
    List.ne_nil_of_length_pos
      (Nat.lt_of_lt_of_le (List.length_pos_iff.2 ne) (length_links_le_of_step step))
  have found {l : LinkId} {link : Link} (found : r.links[l]? = some link) : s.links ≠ [] :=
    keep (List.ne_nil_of_mem (List.mem_of_getElem? found))
  have old {c : CallId} {call : Call} (hc : r.calls[c]? = some call) {p : CallPhase}
      (served : (r.setPhase c p).hasCall Call.isServed)
      (other : p = .done none → call.kind = .close) : s.links ≠ [] := by
    refine keep (h (hasCall_of_hasCall_setPhase hc (fun e => ?_) served))
    obtain ⟨connect, done⟩ := (Bool.and_eq_true _ _).mp e
    have close := other (of_decide_eq_true done)
    cases close.symm.trans (of_decide_eq_true connect)
  cases step with
  | start _ kind =>
    rw [hasCall_start (by rw [Call.isServed]; exact Bool.and_false _)] at served
    exact h served
  | reuse call turn active =>
    obtain ⟨p, hp, -⟩ := isLive_iff.1 (activeLink?_eq_some_iff.1 active).2
    obtain ⟨link, hl, -⟩ := Option.map_eq_some_iff.1 hp
    exact found hl
  | opened => exact List.append_ne_nil_of_right_ne_nil _ nofun
  | publish call =>
    obtain ⟨link, hl, -⟩ := Option.map_eq_some_iff.1 (order.unread (phase?_of_calls call)).1
    exact found hl
  | begin call | take call | report call | refused call => exact old call served nofun
  | fail call | join call => exact old call served nofun
  | skip call => exact old call served fun _ => rfl
  | closed call => exact old call served fun _ => (order.fits call).2 rfl
  | receive hl | exhaust hl | dispatch hl | finish hl | cancel hl => exact found hl
  | accept _ hl => exact found hl
  | push | miss | lose | disconnect | refuse | gate => exact h served
  | draw | store | remove | unsubscribe => exact h served

theorem links_ne_nil_of_run? {actions : List Action}
    (run : (fresh url capacity).run? actions = some s) (served : s.hasCall Call.isServed) :
    s.links ≠ [] := by
  revert served
  refine run?_induction (P := fun _ s => s.hasCall Call.isServed → s.links ≠ [])
    (fun served => by cases served) ?_ run
  intro before a mid next hm ih step
  exact links_ne_nil_of_step ih (orderly_of_run? (.fresh url capacity) hm) step

/-- A server that never refuses a link refuses none. -/
theorem not_refused_of_run? {actions : List Action}
    (run : (fresh url capacity).run? actions = some s) (accepting : .refuse true ∉ actions) :
    s.refusing = false ∧ s.hasCall (·.phase.isRefused) = false := by
  revert accepting
  refine run?_induction (P := fun actions s => .refuse true ∉ actions →
    s.refusing = false ∧ s.hasCall (·.phase.isRefused) = false) (fun _ => ⟨rfl, rfl⟩) ?_ run
  intro before a mid next hm ih step accepting
  obtain ⟨accepts, none⟩ := ih fun h => accepting (List.mem_append_left _ h)
  have old {c : CallId} {call : Call} (hc : mid.calls[c]? = some call) {p : CallPhase}
      (same : p.isRefused = call.phase.isRefused) :
      mid.refusing = false ∧ (mid.setPhase c p).hasCall (·.phase.isRefused) = false :=
    ⟨accepts, (hasCall_setPhase hc same).trans none⟩
  cases step with
  | start => exact ⟨accepts, (hasCall_start rfl).trans none⟩
  | reuse call | begin call | skip call | take call | report call => exact old call rfl
  | opened call | publish call | fail call | join call | closed call => exact old call rfl
  | refused call gate refusing => cases accepts.symm.trans refusing
  | refuse _ on =>
    refine ⟨?_, none⟩
    cases on with
    | false => rfl
    | true => exact absurd (List.mem_append_right _ (.head _)) accepting
  | receive | exhaust | dispatch | finish | cancel | accept | lose => exact ⟨accepts, none⟩
  | push | miss | disconnect | gate => exact ⟨accepts, none⟩
  | draw | store | remove | unsubscribe => exact ⟨accepts, none⟩

/-- A call to connect that returns with an error leaves no reader at work in the slot. -/
theorem activeLink?_of_failed (order : r.Orderly) (step : Step (.call c) r s) {e : ConnectError}
    (failed : s.phase? c = some (.done (some e))) : s.activeLink? = none := by
  have moved {call : Call} (hc : r.calls[c]? = some call) {p : CallPhase}
      (failed : (r.setPhase c p).phase? c = some (.done (some e))) : p = .done (some e) := by
    rw [phase?_setPhase hc, if_pos rfl] at failed
    exact Option.some.inj failed
  cases step with
  | fail call => exact order.activeLink?_eq_none call rfl
  | reuse call | begin call | skip call | take call => cases moved call failed
  | report call | refused call | opened call | publish call => cases moved call failed
  | join call | closed call => cases moved call failed

/-! ## Calls to close that returned -/

/-- Nothing comes out of a reader that has finished. -/
theorem deliveries_of_finished {actions : List Action} (order : r.Orderly)
    (run : r.run? actions = some s) {link : Link} (found : r.links[l]? = some link)
    (ended : link.reader = .finished) :
    ∃ next, s.links[l]? = some next ∧ next.reader = .finished ∧
      next.deliveries = link.deliveries := by
  refine run?_induction (P := fun _ s => ∃ next, s.links[l]? = some next ∧
    next.reader = .finished ∧ next.deliveries = link.deliveries) ⟨link, found, ended, rfl⟩ ?_ run
  rintro before a mid next hm ⟨link, found, ended, same⟩ step
  obtain ⟨after, found', linkStep⟩ := linkStep_of_step (orderly_of_run? order hm) step found
  obtain ⟨ended', same'⟩ := linkStep.finished ended
  exact ⟨after, found', ended', same'.trans same⟩

theorem reader?_of_joining (step : Step (.call c) r s) (waits : r.phase? c = some (.joining l)) :
    r.reader? l = some .finished := by
  obtain ⟨⟨kind, phase⟩, hc, rfl⟩ := Option.map_eq_some_iff.1 waits
  cases step with
  | join call ended =>
    cases hc.symm.trans call
    exact ended
  | reuse call | begin call | skip call | take call => cases hc.symm.trans call
  | report call | refused call | opened call | publish call => cases hc.symm.trans call
  | fail call | closed call => cases hc.symm.trans call

/-- A call to close goes on only when the reader it waits for has finished. -/
theorem finished_of_joining {actions : List Action} (order : r.Orderly)
    (run : r.run? actions = some s) (taken : r.phase? c = some (.joining l)) :
    s.phase? c = some (.joining l) ∨ s.reader? l = some .finished := by
  refine run?_induction (P := fun _ s =>
    s.phase? c = some (.joining l) ∨ s.reader? l = some .finished) (.inl taken) ?_ run
  intro before a mid next hm waits step
  have waitsOrEnded : next.phase? c = some (.joining l) ∨ mid.reader? l = some .finished := by
    rcases waits with waits | ended
    · by_cases own : a = .call c
      · subst own
        exact .inr (reader?_of_joining step waits)
      · exact .inl (phase?_of_step step own waits)
    · exact .inr ended
  refine waitsOrEnded.imp_right fun ended => ?_
  obtain ⟨link, found, ended⟩ := Option.map_eq_some_iff.1 ended
  obtain ⟨after, found', linkStep⟩ := linkStep_of_step (orderly_of_run? order hm) step found
  rw [reader?_of_links found', (linkStep.finished ended).1]

/-- However calls take turns, every reader at work is the one in the slot or one that a call to
close waits for. A call opens a link only while no reader in the slot is at work, a call that fails
leaves none there, and a reader that a call to close waited for has delivered its last event. -/
theorem single_link_of_run? {actions : List Action}
    (run : (fresh url capacity).run? actions = some s) :
    (∀ l, s.isLive l → s.slot = some l ∨ ∃ c : CallId, s.calls[c]? = some ⟨.close, .joining l⟩) ∧
    (s.isClosing = false → ∀ k l, s.isLive k → s.isLive l → k = l) ∧
    (∀ c l, s.phase? c = some .opening → s.slot = some l → s.reader? l = some .finished) ∧
    (∀ a t, s.act? a = some t → t.links.length ≠ s.links.length →
      t.links.length = s.links.length + 1 ∧
        ∃ c, a = .call c ∧ s.calls[c]? = some ⟨.connect, .opening⟩) ∧
    ((∀ a ∈ actions, a ≠ .start .close ∧ a ≠ .disconnect) →
      s.links.length ≤ 1 ∧
        (.refuse true ∉ actions → s.isQuiet → .start .connect ∈ actions → s.links.length = 1)) ∧
    (∀ c t, s.act? (.call c) = some t → t.callbacks = s.callbacks ∧
      ∀ e, t.phase? c = some (.done (some e)) → t.activeLink? = none) ∧
    (∀ c l closing t later u, s.phase? c = some (.joining l) → s.run? closing = some t →
      t.phase? c = some (.done none) → t.run? later = some u →
      ∃ link next, t.links[l]? = some link ∧ u.links[l]? = some next ∧
        next.deliveries = link.deliveries) := by
  have order := orderly_of_run? (.fresh url capacity) run
  have owned (l : LinkId) (live : s.isLive l) :
      s.slot = some l ∨ ∃ c : CallId, s.calls[c]? = some ⟨.close, .joining l⟩ := by
    rcases order.owned live with slot | ⟨c, hp⟩
    · exact .inl slot
    · obtain ⟨⟨kind, phase⟩, hc, rfl⟩ := Option.map_eq_some_iff.1 hp
      obtain rfl : kind = .close := (order.fits hc).2 rfl
      exact .inr ⟨c, hc⟩
  refine ⟨owned, ?_, ?_, ?_, ?_, ?_, ?_⟩
  · intro notClosing k l hk hl
    have inSlot {l : LinkId} (live : s.isLive l) : s.slot = some l := by
      rcases owned l live with slot | ⟨c, hc⟩
      · exact slot
      · have closing : s.isClosing := hasCall_iff.2 ⟨c, _, hc, rfl⟩
        rw [notClosing] at closing
        cases closing
    exact Option.some.inj ((inSlot hk).symm.trans (inSlot hl))
  · intro c l opening slot
    exact order.idle opening rfl slot
  · intro a t step grown
    rcases opened_of_step (step_of_act? step) with ⟨same, -⟩ | ⟨c, kind, rfl, hc, links, -⟩
    · exact absurd same grown
    · obtain rfl : kind = .connect := (order.fits hc).1 rfl
      exact ⟨by rw [links, List.length_append]; rfl, c, rfl, hc⟩
  · intro noEnd
    have lone := (lone_of_run? run noEnd).length
    refine ⟨lone, fun accepting quiet started => ?_⟩
    have served : s.hasCall Call.isServed := by
      obtain ⟨c, call, hc, connect⟩ := hasCall_iff.1 ((hasCall_kind_iff run .connect).2 started)
      refine hasCall_iff.2 ⟨c, call, hc, ?_⟩
      have done := List.all_eq_true.1 quiet call (List.mem_of_getElem? hc)
      have notRefused := List.any_eq_false.1 (not_refused_of_run? run accepting).2 call
        (List.mem_of_getElem? hc)
      exact Call.isServed_of_isDone (of_decide_eq_true connect) done
        (Bool.eq_false_iff.2 notRefused)
    have := List.length_pos_iff.2 (links_ne_nil_of_run? run served)
    omega
  · intro c t step
    have step := step_of_act? step
    exact ⟨callbacks_of_call step, fun e => activeLink?_of_failed order step⟩
  · intro c l closing t later u joining run' done run''
    have order' := orderly_of_run? order run'
    rcases finished_of_joining order run' joining with waits | ended
    · cases waits.symm.trans done
    · obtain ⟨link, found, ended⟩ := Option.map_eq_some_iff.1 ended
      obtain ⟨next, found', -, same⟩ := deliveries_of_finished order' run'' found ended
      exact ⟨link, next, found, found', same⟩

/-- A call to close took the reader of the first link, and the second link was opened meanwhile. -/
theorem single_link_of_run?_closing :
    ∃ s, (fresh "ws://garden" 1).run?
        [.start .connect, .call 0, .call 0, .call 0, .call 0, .start .close, .call 1,
          .start .connect, .call 2, .call 2, .call 2, .call 2] = some s ∧
      s.isLive 0 ∧ s.isLive 1 ∧
      ∀ l, s.isLive l → s.slot = some l ∨ ∃ c : CallId, s.calls[c]? = some ⟨.close, .joining l⟩ :=
  ⟨_, rfl, by decide, by decide,
    (@single_link_of_run? "ws://garden" 1 _
      [.start .connect, .call 0, .call 0, .call 0, .call 0, .start .close, .call 1,
        .start .connect, .call 2, .call 2, .call 2, .call 2] rfl).1⟩

end Registry

end GardenAdmin
