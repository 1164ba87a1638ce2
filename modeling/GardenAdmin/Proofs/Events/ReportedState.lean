import GardenAdmin.Proofs.Events.Calls
import GardenAdmin.Proofs.Events.Links

/-!
# What the registry reports when nothing is under way

A call to close lets the next call have its turn before it has waited for the reader, and reports
the end after that. A link that is put into the slot in between (`Registry.PublishedWhileClosing`)
is then reported as closed while its reader is at work. `Registry.Reports` relates the reported
state to the slot and to the calls at every moment of a run. When no call is under way it leaves no
other way for the report to be wrong.
-/

namespace GardenAdmin

/-- The call reported that a link is being opened and has not reported how that went. -/
def CallPhase.isOpening : CallPhase → Bool
  | .opening | .opened _ | .refused _ => true
  | .queued | .starting | .joining _ | .joined | .done _ => false

theorem CallPhase.isDone_of_isOpening {p : CallPhase} (h : p.isOpening) : p.isDone = false := by
  cases p <;> first | rfl | cases h

/-- The call opened a link, asked for one, or found one. -/
def Call.isEngaged (c : Call) : Bool :=
  match c.phase with
  | .queued | .starting => false
  | .done _ => c.kind = .connect
  | .opening | .opened _ | .refused _ | .joining _ | .joined => true

theorem Call.isEngaged_of_isDone {c : Call} (connect : c.kind = .connect) (done : c.phase.isDone) :
    c.isEngaged := by
  obtain ⟨kind, phase⟩ := c
  cases phase <;> first | exact decide_eq_true connect | cases done

namespace Registry

/-- The link was put into the slot while a call to close had not returned. -/
def PublishedWhileClosing (r : Registry) (actions : List Action) (l : LinkId) : Prop :=
  ∃ before c after mid, actions = before ++ .call c :: after ∧ r.run? before = some mid ∧
    mid.phase? c = some (.opened l) ∧ mid.isClosing

/-- What the reported state says about the slot and the calls, where `late` are the links that were
put into the slot while a call to close had not returned. -/
structure Reports (late : LinkId → Prop) (r : Registry) : Prop where
  connecting : r.state = .connecting → r.hasCall (·.phase.isOpening)
  opened : r.state = .open → r.activeLink?.isSome ∨ r.isClosing
  vacant : r.state = .noConnection → r.slot = none ∧ r.hasCall Call.isEngaged = false
  asked : r.state ≠ .noConnection → r.hasCall (·.kind = .connect)
  prompt : ∀ {l}, r.activeLink? = some l → ¬late l → r.state = .open ∧ r.isClosing = false
  late : ∀ {l}, r.activeLink? = some l → late l → r.state = .closed ∨ r.isClosing

namespace Reports

variable {late : LinkId → Prop} {r s : Registry} {c : CallId} {l : LinkId} {call : Call}
  {link : Link}

theorem fresh (late : LinkId → Prop) (url : String) (capacity : Nat) :
    (Registry.fresh url capacity).Reports late where
  connecting h := by cases h
  opened h := by cases h
  vacant _ := ⟨rfl, rfl⟩
  asked h := absurd rfl h
  prompt h := by cases h
  late h := by cases h

/-- The calls go on without changing what there is to report. -/
theorem congr (h : r.Reports late) (state : s.state = r.state) (slot : s.slot = r.slot)
    (active : s.activeLink? = r.activeLink?)
    (opening : s.hasCall (·.phase.isOpening) = r.hasCall (·.phase.isOpening))
    (closing : s.isClosing = r.isClosing)
    (engaged : r.state = .noConnection → s.hasCall Call.isEngaged = r.hasCall Call.isEngaged)
    (connects : r.hasCall (·.kind = .connect) → s.hasCall (·.kind = .connect)) :
    s.Reports late := by
  refine ⟨?_, ?_, ?_, ?_, ?_, ?_⟩
  · rw [state, opening]; exact h.connecting
  · rw [state, active, closing]; exact h.opened
  · rw [state, slot]
    intro e
    rw [engaged e]
    exact h.vacant e
  · rw [state]; exact fun ne => connects (h.asked ne)
  · rw [state, active, closing]; exact h.prompt
  · rw [state, active, closing]; exact h.late

/-- No call goes on. -/
theorem congr_of_calls (h : r.Reports late) (state : s.state = r.state) (slot : s.slot = r.slot)
    (active : s.activeLink? = r.activeLink?) (calls : s.calls = r.calls) : s.Reports late := by
  have same (q : Call → Bool) : s.hasCall q = r.hasCall q := by rw [hasCall, calls, hasCall]
  exact h.congr state slot active (same _) (same _) (fun _ => same _) ((same _).symm ▸ id)

/-- One call goes on to a phase of the same sort. -/
theorem congr_of_setPhase (h : r.Reports late) (hc : r.calls[c]? = some call) {p : CallPhase}
    (calls : s.calls = (r.setPhase c p).calls) (state : s.state = r.state) (slot : s.slot = r.slot)
    (active : s.activeLink? = r.activeLink?) (opening : p.isOpening = call.phase.isOpening)
    (closing : p.isClosing = call.phase.isClosing)
    (engaged : r.state = .noConnection → Call.isEngaged ⟨call.kind, p⟩ = call.isEngaged) :
    s.Reports late := by
  have same {q : Call → Bool} (hq : q { call with phase := p } = q call) :
      s.hasCall q = r.hasCall q := by
    rw [hasCall, calls]
    exact hasCall_setPhase hc hq
  refine h.congr state slot active (same opening) (same closing) (fun e => same (engaged e)) ?_
  intro connects
  rw [hasCall, calls]
  exact hasCall_setPhase_of_hasCall hc id connects

/-- A call that has gone beyond its turn is not the first thing that happens. -/
theorem state_ne_noConnection (h : r.Reports late) (hc : r.calls[c]? = some call)
    (engaged : call.isEngaged) : r.state ≠ .noConnection := by
  intro e
  have := hasCall_iff.2 ⟨c, call, hc, engaged⟩
  rw [(h.vacant e).2] at this
  cases this

theorem state_ne_noConnection_of_isLive (h : r.Reports late) (order : r.Orderly)
    (live : r.isLive l) : r.state ≠ .noConnection := by
  intro e
  rcases order.owned live with slot | ⟨c, hp⟩
  · rw [(h.vacant e).1] at slot
    cases slot
  · obtain ⟨call, hc, joining⟩ := Option.map_eq_some_iff.1 hp
    have engaged : call.isEngaged := by rw [Call.isEngaged, joining]
    exact h.state_ne_noConnection hc engaged e

/-- A link is active: no other reader is at work unless a call to close waits for it. -/
theorem eq_of_isLive (order : r.Orderly) {k : LinkId} (active : r.activeLink? = some l)
    (closing : r.isClosing = false) (live : r.isLive k) : k = l := by
  rcases order.owned live with slot | ⟨c, hp⟩
  · exact Option.some.inj (slot.symm.trans (activeLink?_eq_some_iff.1 active).1)
  · have := isClosing_of_phase hp rfl
    rw [closing] at this
    cases this

/-! ## Steps that report something -/

theorem report (order : r.Orderly) {kind : CallKind}
    (hc : r.calls[c]? = some ⟨kind, .starting⟩) :
    Registry.Reports late { r.setPhase c .opening with state := .connecting } := by
  have inactive := order.activeLink?_eq_none hc rfl
  refine ⟨?_, nofun, nofun, ?_, ?_, ?_⟩
  · intro _
    exact hasCall_iff.2 ⟨c, ⟨kind, .opening⟩, by rw [calls_setPhase hc, if_pos rfl], rfl⟩
  · intro _
    have : kind = .connect := (order.fits hc).1 rfl
    exact hasCall_setPhase_of_hasCall hc id (hasCall_iff.2 ⟨c, _, hc, by simp [this]⟩)
  · intro l active
    cases inactive.symm.trans active
  · intro l active
    cases inactive.symm.trans active

theorem take (h : r.Reports late) (hc : r.calls[c]? = some ⟨.close, .queued⟩)
    (occupied : r.slot = some l) (calls : s.calls = (r.setPhase c (.joining l)).calls)
    (state : s.state = r.state) (slot : s.slot = none) : s.Reports late := by
  have inactive : s.activeLink? = none := by rw [activeLink?, slot]; rfl
  have same {q : Call → Bool} (hq : q ⟨.close, .joining l⟩ = q ⟨.close, .queued⟩) :
      s.hasCall q = r.hasCall q := by
    rw [hasCall, calls]
    exact hasCall_setPhase hc hq
  refine ⟨?_, ?_, ?_, ?_, ?_, ?_⟩
  · intro e
    rw [same rfl]
    exact h.connecting (state ▸ e)
  · intro _
    refine .inr (hasCall_iff.2 ⟨c, ⟨.close, .joining l⟩, ?_, rfl⟩)
    rw [calls, calls_setPhase hc, if_pos rfl]
  · intro e
    rw [(h.vacant (state ▸ e)).1] at occupied
    cases occupied
  · intro ne
    rw [same rfl]
    exact h.asked (state ▸ ne)
  · intro k active
    cases inactive.symm.trans active
  · intro k active
    cases inactive.symm.trans active

/-- A call or a reader reports an end. -/
theorem ended (state : s.state = .closed) (asked : s.hasCall (·.kind = .connect))
    (behind : ∀ l, s.activeLink? = some l → late l) : s.Reports late := by
  refine ⟨?_, ?_, ?_, fun _ => asked, ?_, fun _ _ => .inl state⟩
  · rw [state]; exact nofun
  · rw [state]; exact nofun
  · rw [state]; exact nofun
  · intro l active prompt
    exact absurd (behind l active) prompt

theorem fail (order : r.Orderly) {e : ConnectError} {kind : CallKind}
    (hc : r.calls[c]? = some ⟨kind, .refused e⟩) :
    Registry.Reports late
      { r.setPhase c (.done (some e)) with state := .closed, queue := r.queue.tail } := by
  have inactive := order.activeLink?_eq_none hc rfl
  have connects : kind = .connect := (order.fits hc).1 rfl
  refine ended rfl ?_ ?_
  · exact hasCall_setPhase_of_hasCall hc id (hasCall_iff.2 ⟨c, _, hc, by simp [connects]⟩)
  · intro l active
    cases inactive.symm.trans active

theorem closed (h : r.Reports late) {kind : CallKind} (hc : r.calls[c]? = some ⟨kind, .joined⟩) :
    Registry.Reports late { r.setPhase c (.done none) with state := .closed } := by
  have closing := isClosing_of_phase (phase?_of_calls hc) rfl
  refine ended rfl ?_ ?_
  · exact hasCall_setPhase_of_hasCall hc id (h.asked (h.state_ne_noConnection hc rfl))
  · intro l active
    by_contra prompt
    rw [(h.prompt (l := l) active prompt).2] at closing
    cases closing

theorem finish (h : r.Reports late) (order : r.Orderly) (found : r.links[l]? = some link)
    (ending : link.reader = .ending) :
    Registry.Reports late
      { r.updateLink l fun link => { link with reader := .finished } with state := .closed } := by
  have live : r.isLive l := isLive_iff.2 ⟨.ending, ending ▸ reader?_of_links found, rfl⟩
  refine ended rfl (h.asked (h.state_ne_noConnection_of_isLive order live)) ?_
  intro k active
  obtain ⟨slot, live'⟩ := activeLink?_eq_some_iff.1 active
  have reader : (r.updateLink l fun link => { link with reader := .finished }).isLive k := live'
  rw [isLive_eq, reader?_updateLink found] at reader
  split at reader
  · cases reader
  · next ne =>
    by_contra prompt
    have active' : r.activeLink? = some k :=
      activeLink?_eq_some_iff.2 ⟨slot, (isLive_eq r k).trans reader⟩
    exact ne (eq_of_isLive order active' (h.prompt active' prompt).2 live)

theorem publish (order : r.Orderly) {kind : CallKind}
    (hc : r.calls[c]? = some ⟨kind, .opened l⟩) (new : ¬late l) :
    (r.publish c l).Reports fun k => late k ∨ k = l ∧ r.isClosing := by
  obtain ⟨link, found, -⟩ := Option.map_eq_some_iff.1 (order.unread (phase?_of_calls hc)).1
  have connects : kind = .connect := (order.fits hc).1 rfl
  have live : (r.publish c l).isLive l := by
    have := reader?_updateLink found (fun link => { link with reader := .receiving }) l
    rw [if_pos rfl] at this
    exact isLive_iff.2 ⟨.receiving, this, rfl⟩
  have active : (r.publish c l).activeLink? = some l := activeLink?_eq_some_iff.2 ⟨rfl, live⟩
  have closing : (r.publish c l).isClosing = r.isClosing := hasCall_setPhase hc rfl
  refine ⟨nofun, ?_, nofun, ?_, ?_, ?_⟩
  · intro _
    rw [active]
    exact .inl rfl
  · intro _
    exact hasCall_setPhase_of_hasCall hc id (hasCall_iff.2 ⟨c, _, hc, by simp [connects]⟩)
  · intro k hk prompt
    obtain rfl : l = k := Option.some.inj (active.symm.trans hk)
    rw [closing]
    refine ⟨rfl, Bool.eq_false_iff.2 fun closing => prompt (.inr ⟨rfl, closing⟩)⟩
  · intro k hk late
    obtain rfl : l = k := Option.some.inj (active.symm.trans hk)
    rw [closing]
    rcases late with late | ⟨-, closing⟩
    · exact absurd late new
    · exact .inr closing

/-! ## Every step -/

/-- A reader at work goes on. -/
theorem read (h : r.Reports late) (found : r.links[l]? = some link) (running : link.isRunning)
    {f : Link → Link} (still : (f link).isRunning) : (r.updateLink l f).Reports late := by
  have live := isLive_updateLink_of_eq r l (f := f) fun link' found' => by
    cases found.symm.trans found'
    exact still.trans running.symm
  exact h.congr_of_calls rfl rfl (activeLink?_congr rfl fun k _ => live k) rfl

/-- A reader that was told to stop was not in the slot. -/
theorem cancel (h : r.Reports late) (order : r.Orderly) (found : r.links[l]? = some link)
    (aborted : link.aborted) (f : Link → Link) : (r.updateLink l f).Reports late := by
  refine h.congr_of_calls rfl rfl (activeLink?_congr rfl fun k slot => ?_) rfl
  have ne : l ≠ k := by
    rintro rfl
    have := (order.kept slot).2
    rw [isAborted, found, Option.any_some, aborted] at this
    cases this
  rw [isLive_eq, isLive_eq, reader?_updateLink found, if_neg ne]

/-- What a call does that has opened a link. -/
theorem publish_of_step (step : Step (.call c) r s) (hp : r.phase? c = some (.opened l)) :
    ∃ kind, r.calls[c]? = some ⟨kind, .opened l⟩ ∧ s = r.publish c l := by
  obtain ⟨⟨kind, phase⟩, hc, rfl⟩ := Option.map_eq_some_iff.1 hp
  cases step with
  | publish call =>
    cases hc.symm.trans call
    exact ⟨kind, hc, rfl⟩
  | reuse call | begin call | skip call | take call => cases hc.symm.trans call
  | report call | refused call | opened call | fail call => cases hc.symm.trans call
  | join call | closed call => cases hc.symm.trans call

/-- A step that puts no link into the slot. -/
theorem step_of_not_publish {a : Action} (h : r.Reports late) (order : r.Orderly)
    (step : Step a r s)
    (other : ∀ c l, a = .call c → r.phase? c ≠ some (.opened l)) : s.Reports late := by
  cases step with
  | start =>
    exact h.congr rfl rfl rfl (hasCall_start rfl) (hasCall_start rfl) (fun _ => hasCall_start rfl)
      hasCall_start_of_hasCall
  | reuse call turn active =>
    refine h.congr_of_setPhase call rfl rfl rfl rfl rfl rfl fun e => ?_
    have slot := (activeLink?_eq_some_iff.1 active).1
    rw [(h.vacant e).1] at slot
    cases slot
  | begin call => exact h.congr_of_setPhase call rfl rfl rfl rfl rfl rfl fun _ => rfl
  | skip call => exact h.congr_of_setPhase call rfl rfl rfl rfl rfl rfl fun _ => rfl
  | take call turn occupied => exact h.take call occupied rfl rfl rfl
  | report call => exact report order call
  | refused call => exact h.congr_of_setPhase call rfl rfl rfl rfl rfl rfl fun _ => rfl
  | opened call =>
    refine h.congr_of_setPhase call rfl rfl rfl (activeLink?_congr rfl fun l slot => ?_) rfl rfl
      fun _ => rfl
    obtain ⟨⟨p, hp, -⟩, -⟩ := order.kept slot
    obtain ⟨link, found, -⟩ := Option.map_eq_some_iff.1 hp
    have lt := (List.getElem?_eq_some_iff.1 found).1
    rw [isLive, List.getElem?_append_left lt, isLive]
  | publish call => exact absurd (phase?_of_calls call) (other _ _ rfl)
  | fail call => exact fail order call
  | join call => exact h.congr_of_setPhase call rfl rfl rfl rfl rfl rfl fun _ => rfl
  | closed call => exact h.closed call
  | receive found receiving =>
    exact h.read found (by rw [Link.isRunning, receiving]; rfl) (isRunning_receive _)
  | exhaust found receiving => exact h.read found (by rw [Link.isRunning, receiving]; rfl) rfl
  | dispatch found dispatching => exact h.read found (by rw [Link.isRunning, dispatching]; rfl) rfl
  | finish found ending => exact h.finish order found ending
  | cancel found aborted => exact h.cancel order found aborted _
  | accept =>
    exact h.congr_of_calls rfl rfl (activeLink?_congr rfl fun l _ => isLive_accept r _ l) rfl
  | push | miss | lose | disconnect | refuse | gate => exact h.congr_of_calls rfl rfl rfl rfl
  | draw | store | remove | unsubscribe => exact h.congr_of_calls rfl rfl rfl rfl

theorem of_iff (h : r.Reports late) {late' : LinkId → Prop} (iff : ∀ l, late' l ↔ late l) :
    r.Reports late' := by
  obtain rfl : late' = late := funext fun l => propext (iff l)
  exact h

theorem step {a : Action} (h : r.Reports late) (order : r.Orderly) (step : Step a r s)
    (new : ∀ c l, r.phase? c = some (.opened l) → ¬late l) :
    s.Reports fun l => late l ∨ ∃ c, a = .call c ∧ r.phase? c = some (.opened l) ∧ r.isClosing := by
  by_cases publishes : ∃ c l, a = .call c ∧ r.phase? c = some (.opened l)
  · obtain ⟨c, l, rfl, hp⟩ := publishes
    obtain ⟨kind, hc, rfl⟩ := publish_of_step step hp
    refine (publish order hc (new c l hp)).of_iff fun k => or_congr_right ⟨?_, ?_⟩
    · rintro ⟨d, e, hd, closing⟩
      cases e
      cases hp.symm.trans hd
      exact ⟨rfl, closing⟩
    · rintro ⟨rfl, closing⟩
      exact ⟨c, rfl, hp, closing⟩
  · have other c l (e : a = .call c) : r.phase? c ≠ some (.opened l) := fun hp =>
      publishes ⟨c, l, e, hp⟩
    refine (h.step_of_not_publish order step other).of_iff fun l => or_iff_left ?_
    rintro ⟨c, e, hp, -⟩
    exact other c l e hp

end Reports

/-! ## Runs -/

theorem publishedWhileClosing_concat {r mid : Registry} {before : List Action} {a : Action}
    (run : r.run? before = some mid) (l : LinkId) :
    r.PublishedWhileClosing (before ++ [a]) l ↔ r.PublishedWhileClosing before l ∨
      ∃ c, a = .call c ∧ mid.phase? c = some (.opened l) ∧ mid.isClosing := by
  constructor
  · rintro ⟨first, c, after, s, e, hs, hp, closing⟩
    rcases concat_eq_append_cons e with ⟨rfl, rfl, rfl⟩ | ⟨rest, rfl, rfl⟩
    · obtain rfl : mid = s := Option.some.inj (run.symm.trans hs)
      exact .inr ⟨c, rfl, hp, closing⟩
    · exact .inl ⟨first, c, rest, s, rfl, hs, hp, closing⟩
  · rintro (⟨first, c, after, s, rfl, hs, hp, closing⟩ | ⟨c, rfl, hp, closing⟩)
    · exact ⟨first, c, after ++ [a], s, by simp, hs, hp, closing⟩
    · exact ⟨before, c, [], mid, rfl, run, hp, closing⟩

/-- A link that was put into the slot has its reader started. -/
theorem started_of_publishedWhileClosing {url : String} {capacity : Nat} {s : Registry}
    {actions : List Action} (run : (fresh url capacity).run? actions = some s) {l : LinkId}
    (late : (fresh url capacity).PublishedWhileClosing actions l) :
    ∃ link, s.links[l]? = some link ∧ link.reader ≠ .unstarted := by
  revert late
  refine run?_induction (P := fun actions s =>
    (fresh url capacity).PublishedWhileClosing actions l →
    ∃ link, s.links[l]? = some link ∧ link.reader ≠ .unstarted) ?_ ?_ run
  · rintro ⟨before, c, after, mid, e, -⟩
    cases before <;> cases e
  · intro before a mid next hm ih step late
    have order := orderly_of_run? (.fresh url capacity) hm
    rcases (publishedWhileClosing_concat hm l).1 late with late | ⟨c, rfl, hp, -⟩
    · obtain ⟨link, found, started⟩ := ih late
      obtain ⟨link', found', linkStep⟩ := linkStep_of_step order step found
      exact ⟨link', found', linkStep.started started⟩
    · obtain ⟨kind, hc, rfl⟩ := Reports.publish_of_step step hp
      obtain ⟨link, found, -⟩ := Option.map_eq_some_iff.1 (order.unread hp).1
      refine ⟨{ link with reader := .receiving }, ?_, nofun⟩
      exact (links_updateLink found _ l).trans (if_pos rfl)

theorem reports_of_run? {url : String} {capacity : Nat} {s : Registry} {actions : List Action}
    (run : (fresh url capacity).run? actions = some s) :
    s.Reports ((fresh url capacity).PublishedWhileClosing actions) := by
  refine run?_induction (P := fun actions s =>
    s.Reports ((fresh url capacity).PublishedWhileClosing actions)) (.fresh _ _ _) ?_ run
  intro before a mid next hm ih step
  have order := orderly_of_run? (.fresh url capacity) hm
  refine (ih.step order step fun c l hp late => ?_).of_iff fun l =>
    publishedWhileClosing_concat hm l
  obtain ⟨link, found, started⟩ := started_of_publishedWhileClosing hm late
  have unstarted := (order.unread hp).1
  rw [reader?_of_links found] at unstarted
  exact started (Option.some.inj unstarted)

/-- When no call is under way, the report is right about the first call to connect and about the
end of the last link. It is right about an active link unless that link was put into the slot while
a call to close had not returned, which is then reported as closed. -/
theorem state_of_isQuiet {url : String} {capacity : Nat} {s : Registry} {actions : List Action}
    (run : (fresh url capacity).run? actions = some s) (quiet : s.isQuiet) :
    (s.state = .noConnection ↔ .start .connect ∉ actions) ∧ s.state ≠ .connecting ∧
      (s.state = .open → s.activeLink?.isSome) ∧
      (∀ l, s.activeLink? = some l →
        (fresh url capacity).PublishedWhileClosing actions l → s.state = .closed) ∧
      ((s.state = .open ↔ s.activeLink?.isSome) ↔
        ∀ l, s.activeLink? = some l → ¬(fresh url capacity).PublishedWhileClosing actions l) := by
  have h := reports_of_run? run
  have opening : s.hasCall (·.phase.isOpening) = false :=
    not_hasCall_of_isQuiet quiet fun _ => CallPhase.isDone_of_isOpening
  have closing : s.isClosing = false :=
    not_hasCall_of_isQuiet quiet fun _ => CallPhase.isDone_of_isClosing
  have right : s.state = .open → s.activeLink?.isSome := fun e => by
    simpa [closing] using h.opened e
  have wrong : ∀ l, s.activeLink? = some l →
      (fresh url capacity).PublishedWhileClosing actions l → s.state = .closed := by
    intro l active late
    simpa [closing] using h.late active late
  refine ⟨⟨?_, ?_⟩, ?_, right, wrong, ?_, ?_⟩
  · intro e started
    obtain ⟨c, call, hc, connect⟩ := hasCall_iff.1 ((hasCall_kind_iff run .connect).2 started)
    have done := List.all_eq_true.1 quiet call (List.mem_of_getElem? hc)
    exact h.state_ne_noConnection hc (Call.isEngaged_of_isDone (of_decide_eq_true connect) done) e
  · intro h'
    by_contra ne
    exact h' ((hasCall_kind_iff run .connect).1 (h.asked ne))
  · intro e
    have := h.connecting e
    rw [opening] at this
    cases this
  · intro iff l active late
    have e := iff.2 (by rw [active]; rfl)
    rw [wrong l active late] at e
    cases e
  · intro prompt
    refine ⟨right, fun active => ?_⟩
    obtain ⟨l, active⟩ := Option.isSome_iff_exists.1 active
    exact (h.prompt active (prompt l active)).1

/-- A link is closed, and then another one is opened. -/
def reopening : List Action :=
  [.start .connect, .call 0, .call 0, .call 0, .call 0, .start .close, .call 1, .cancel 0, .call 1,
    .call 1, .start .connect, .call 2, .call 2, .call 2, .call 2]

/-- Another link is opened before the call to close has returned. -/
def overlapping : List Action :=
  [.start .connect, .call 0, .call 0, .call 0, .call 0, .start .close, .call 1, .start .connect,
    .call 2, .call 2, .call 2, .call 2, .cancel 0, .call 1, .call 1]

/-- What is reported of the second link depends on which of the calls was the last to report. -/
theorem state_of_isQuiet_reopening :
    (∃ s, (fresh "ws://garden" 1).run? reopening = some s ∧ s.isQuiet ∧
      s.activeLink? = some 1 ∧ s.state = .open ∧
      ¬(fresh "ws://garden" 1).PublishedWhileClosing reopening 1) ∧
    ∃ s, (fresh "ws://garden" 1).run? overlapping = some s ∧ s.isQuiet ∧
      s.activeLink? = some 1 ∧ s.state = .closed ∧
      (fresh "ws://garden" 1).PublishedWhileClosing overlapping 1 := by
  constructor
  · obtain ⟨s, run, quiet, active, reported⟩ : ∃ s ∈ (fresh "ws://garden" 1).run? reopening,
        s.isQuiet ∧ s.activeLink? = some 1 ∧ s.state = .open := by
      decide +kernel
    obtain ⟨-, -, -, -, prompt⟩ := state_of_isQuiet run quiet
    refine ⟨s, run, quiet, active, reported, prompt.1 ?_ 1 active⟩
    rw [reported, active]
    decide
  · obtain ⟨s, run, quiet, active⟩ : ∃ s ∈ (fresh "ws://garden" 1).run? overlapping,
        s.isQuiet ∧ s.activeLink? = some 1 := by
      decide +kernel
    obtain ⟨mid, hm, opened, closing⟩ :
        ∃ mid ∈ (fresh "ws://garden" 1).run? (overlapping.take 11),
          mid.phase? 2 = some (.opened 1) ∧ mid.isClosing := by
      decide +kernel
    have late : (fresh "ws://garden" 1).PublishedWhileClosing overlapping 1 :=
      ⟨_, 2, _, mid, rfl, hm, opened, closing⟩
    obtain ⟨-, -, -, closed, -⟩ := state_of_isQuiet run quiet
    exact ⟨s, run, quiet, active, closed 1 active late, late⟩

/-- Two calls to connect and a call to close between them: the second link is at work, and the
registry reports it as closed. -/
theorem exists_active_link_reported_closed :
    ∃ s, (fresh "ws://garden" 1).run?
        [.gate false, .start .connect, .gate true, .call 0, .call 0, .call 0, .call 0,
          .start .close, .start .connect, .call 1, .call 2, .call 2, .call 2, .call 2,
          .cancel 0, .call 1, .call 1] = some s ∧
      s.isQuiet ∧ (∀ link ∈ s.links, link.reader ≠ .ending) ∧ s.activeLink? = some 1 ∧
      s.hasSender 1 ∧ ¬(s.state = .open ↔ s.activeLink?.isSome) :=
  ⟨_, rfl, by decide, by decide, by decide, by decide, by decide⟩

end Registry

end GardenAdmin
