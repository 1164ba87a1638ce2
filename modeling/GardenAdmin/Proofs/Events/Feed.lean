import GardenAdmin.Proofs.Events.Completion
import GardenAdmin.Proofs.Events.HostRun
import GardenAdmin.Proofs.Events.ReportedState
import Mathlib.Data.List.TakeWhile

/-!
# From the frames of a socket to the callbacks

The messages of a socket reach the callbacks without loss and in order, whatever else happens at the
registry meanwhile, as long as nobody tells the reader of the link to stop. The forwarder and the
reader cannot block each other, and the reader reports the end of the link after the last event
(`Feed.delivery_of_frames`). What a host does with the frames of a socket is such a run
(`Feed.reaches_feed`).
-/

namespace GardenAdmin

/-- The link accepted the messages of these frames, and its reader handed over all their events. -/
structure Link.Complete (link : Link) (frames : List Frame) : Prop where
  accepted : link.accepted = Frame.messages frames
  deliveries : link.deliveries.map (·.event) = decoded (Frame.messages frames)

namespace Registry

variable {url : String} {capacity : Nat} {s : Registry} {actions : List Action} {l : LinkId}
  {link : Link}

/-- When no call is under way and the reader of the link in the slot has finished, the registry says
so. -/
theorem state_of_finished (run : (fresh url capacity).run? actions = some s) (quiet : s.isQuiet)
    (slot : s.slot = some l) (finished : s.reader? l = some .finished) : s.state = .closed := by
  have h := reports_of_run? run
  have opening : s.hasCall (·.phase.isOpening) = false :=
    not_hasCall_of_isQuiet quiet fun _ => CallPhase.isDone_of_isOpening
  have closing : s.isClosing = false :=
    not_hasCall_of_isQuiet quiet fun _ => CallPhase.isDone_of_isClosing
  have inactive : s.activeLink? = none := by
    rw [activeLink?_eq_none_iff, slot]
    rintro _ ⟨⟩ live
    rw [isLive_eq, finished] at live
    cases live
  cases state : s.state with
  | closed => rfl
  | noConnection => cases slot.symm.trans (h.vacant state).1
  | connecting => cases opening.symm.trans (h.connecting state)
  | «open» =>
    have := h.opened state
    rw [inactive, closing] at this
    rcases this with e | e <;> cases e

end Registry

namespace Feed

variable {sockets : LinkId → List Frame} {url : String} {capacity : Nat} {f g : Feed}
  {actions : List FeedAction} {l : LinkId} {link : Link}

/-! ## What is handed over -/

theorem Forwarding.conserved (h : Forwarding sockets f) (found : f.registry.links[l]? = some link)
    (unaborted : link.aborted = false) :
    f.registry.handed l ++ f.toCome l = Frame.messages (sockets l) := by
  obtain ⟨rest, told, rfl | ⟨stopped, -⟩⟩ := h.told (List.getElem?_eq_some_iff.1 found).1
  · exact told
  · rw [Registry.isAborted, found, Option.any_some, unaborted] at stopped
    cases stopped

theorem Forwarding.prefix_messages (h : Forwarding sockets f)
    (found : f.registry.links[l]? = some link) :
    link.accepted <+: Frame.messages (sockets l) := by
  obtain ⟨rest, told, -⟩ := h.told (List.getElem?_eq_some_iff.1 found).1
  rw [Registry.handed, Registry.accepted, found, List.append_assoc] at told
  exact ⟨_, told⟩

theorem complete_of_finished (run : (Feed.fresh url capacity).run? sockets actions = some f)
    (found : f.registry.links[l]? = some link) (finished : link.reader = .finished)
    (unaborted : link.aborted = false) : link.Complete (sockets l) := by
  obtain ⟨history, hh, -⟩ := exists_history run
  have order := (Registry.inOrder_of_run? hh).links found
  obtain ⟨other, free⟩ := Registry.hasSender_eq_false_iff.1
    (Registry.hasSender_of_finished hh found finished unaborted)
  have all := (forwarding_of_run? run).conserved found unaborted
  rw [Registry.handed, Registry.accepted, found, free, toCome, if_neg other] at all
  have accepted : link.accepted = Frame.messages (sockets l) := by simpa using all
  exact ⟨accepted, accepted ▸ order.deliveries_of_finished finished unaborted⟩

/-- An event is handed over to the callbacks that are stored at that moment. -/
theorem dispatched_of_run? (run : (Feed.fresh url capacity).run? sockets actions = some f)
    (found : f.registry.links[l]? = some link) {k : Nat} {d : Delivery}
    (delivered : link.deliveries[k]? = some d) :
    ∃ before after mid taker, actions = before ++ .registry (.read l) :: after ∧
      (Feed.fresh url capacity).run? sockets before = some mid ∧
      mid.registry.links[l]? = some taker ∧ taker.reader = .dispatching d.event ∧
      taker.deliveries.length = k ∧ d = mid.registry.callbacks.deliver d.event := by
  obtain ⟨history, hh, lift⟩ := exists_history run
  obtain ⟨before, after, mid, taker, e, hm, old, rest⟩ :=
    Registry.dispatched_of_run? hh found delivered
  obtain ⟨first, last, fed, rfl, hf, hm'⟩ := lift e
  cases hm.symm.trans hm'
  exact ⟨first, last, fed, taker, rfl, hf, old, rest⟩

/-- A reader that nobody told to stop reported the end of its link after the last event. -/
theorem exists_report_of_run? (run : (Feed.fresh url capacity).run? sockets actions = some f)
    (found : f.registry.links[l]? = some link) (finished : link.reader = .finished)
    (unaborted : link.aborted = false) :
    ∃ before after mid next ender, actions = before ++ .registry (.read l) :: after ∧
      (Feed.fresh url capacity).run? sockets before = some mid ∧
      mid.registry.links[l]? = some ender ∧ ender.deliveries = link.deliveries ∧
      mid.act? sockets (.registry (.read l)) = some next ∧ next.registry.state = .closed := by
  obtain ⟨history, hh, lift⟩ := exists_history run
  obtain ⟨before, after, mid, ender, e, hm, old, ending, same⟩ :=
    Registry.exists_ending_of_run? hh found finished unaborted
  obtain ⟨first, last, fed, rfl, hf, hm'⟩ := lift e
  cases hm.symm.trans hm'
  rw [run?_append_eq, hf, Option.bind_some, run?, List.foldlM_cons] at run
  obtain ⟨next, act, -⟩ := Option.bind_eq_some_iff.1 run
  refine ⟨first, last, fed, next, ender, rfl, hf, old, same, act, ?_⟩
  obtain ⟨r, read, rfl⟩ := Option.map_eq_some_iff.1 act
  rw [registry_follow]
  exact Registry.state_of_ending old ending read

/-! ## What a host does -/

/-- The feed comes there. -/
def Reaches (sockets : LinkId → List Frame) (f g : Feed) : Prop :=
  ∃ actions, f.run? sockets actions = some g

namespace Reaches

theorem refl (f : Feed) : Reaches sockets f f := ⟨[], rfl⟩

theorem trans {h : Feed} (first : Reaches sockets f g) (second : Reaches sockets g h) :
    Reaches sockets f h := by
  obtain ⟨before, run⟩ := first
  obtain ⟨after, run'⟩ := second
  refine ⟨before ++ after, ?_⟩
  rw [run?_append_eq, run]
  exact run'

theorem forward (h : f.forward? = some g) : Reaches sockets f g :=
  ⟨[.forward], run?_cons h rfl⟩

/-- What the registry does by itself, it does in a feed. -/
theorem of_registry {r s : Registry} (quiet : r.isQuiet) (reaches : r.Reaches s)
    (forwarder : Forwarder) : Reaches sockets ⟨r, forwarder⟩ ⟨s, forwarder⟩ := by
  obtain ⟨actions, internal, run⟩ := reaches
  induction actions generalizing r with
  | nil =>
    cases run
    exact refl _
  | cons a actions ih =>
    rw [Registry.run?, List.foldlM_cons] at run
    obtain ⟨mid, act, run⟩ := Option.bind_eq_some_iff.1 run
    obtain ⟨own, internal⟩ := List.forall_mem_cons.1 internal
    have idle := Registry.Idle.of_step quiet own (Registry.step_of_act? act)
    refine .trans ⟨[.registry a], run?_cons ?_ rfl⟩ (ih idle.quiet internal run)
    rw [act?, Action.isServers_of_isInternal own, act, Option.map_some, follow, if_pos idle.length]
    rfl

end Reaches

variable {h : Host} {frames : List Frame}

theorem forward?_of_sent {id : PushId} (sending : f.forwarder = .sending id frames)
    (gone : ∀ p ∈ f.registry.waiting, p.id ≠ id) (kept : id ∉ f.registry.lost) :
    f.forward? = some ⟨f.registry, .reading frames⟩ := by
  have : f.registry.waiting.any (·.id = id) = false := by
    rw [List.any_eq_false]
    exact fun p hp e => gone p hp (of_decide_eq_true e)
  simp [forward?, sending, this, kept]

/-- A host that pushes the message of a frame lets it arrive before the next one is read. -/
theorem reaches_push (pos : 0 < capacity) {message : String}
    (start : Reaches sockets (Feed.fresh url capacity)
      ⟨h.registry, .reading (.text message :: frames)⟩)
    (quiet : h.registry.isQuiet) (current : h.registry.current = some l)
    (unaborted : h.registry.isAborted l = false) :
    Reaches sockets ⟨h.registry, .reading (.text message :: frames)⟩
        ⟨(h.push message).2.registry, .reading frames⟩ ∧
      h.registry.Idle (h.push message).2.registry := by
  have pushed : h.registry.Idle (h.registry.push message) := by
    rw [Registry.push_of_current current]
    exact ⟨quiet, rfl, rfl, rfl, fun _ => rfl⟩
  obtain ⟨arrives, settled⟩ := h.reaches_push message
  have idle := pushed.trans (.of_reaches pushed.quiet arrives)
  have sending : Reaches sockets ⟨h.registry, .reading (.text message :: frames)⟩
      ⟨(h.push message).2.registry, .sending h.registry.nextPush frames⟩ :=
    (Reaches.forward rfl).trans (.of_registry pushed.quiet arrives _)
  refine ⟨sending.trans (.forward (forward?_of_sent rfl ?_ ?_)), idle⟩
  · rcases settled with gone | ready
    · exact gone
    · obtain ⟨actions, run⟩ := start.trans sending
      obtain ⟨history, hh, -⟩ := exists_history run
      rw [Registry.waiting_eq_nil_of_ready pos hh idle.quiet ready]
      nofun
  · intro lost
    obtain ⟨actions, run⟩ := start.trans sending
    have stopped := ((forwarding_of_run? run).sending (idle.current.trans current) rfl).2 lost
    rw [idle.aborted, unaborted] at stopped
    cases stopped

/-- The messages of all frames up to the one that ends the socket. -/
theorem reaches_messages (pos : 0 < capacity)
    (start : Reaches sockets (Feed.fresh url capacity) ⟨h.registry, .reading frames⟩)
    (quiet : h.registry.isQuiet) (current : h.registry.current = some l)
    (unaborted : h.registry.isAborted l = false) :
    Reaches sockets ⟨h.registry, .reading frames⟩
        ⟨((Frame.messages frames).foldl (fun h message => (h.push message).2) h).registry,
          .reading (frames.dropWhile (!·.isLast))⟩ ∧
      h.registry.Idle
        ((Frame.messages frames).foldl (fun h message => (h.push message).2) h).registry := by
  induction frames generalizing h with
  | nil => exact ⟨.refl _, .refl quiet⟩
  | cons frame frames ih =>
    by_cases last : frame.isLast
    · rw [Frame.messages_of_isLast (by simpa using last),
        List.dropWhile_cons_of_neg (by simp [last])]
      exact ⟨.refl _, .refl quiet⟩
    · have goesOn : frame.isLast = false := Bool.eq_false_iff.2 last
      rw [List.dropWhile_cons_of_pos (by simp [goesOn])]
      cases text : frame.message? with
      | none =>
        rw [Frame.messages_of_message?_eq_none goesOn text]
        have pass : Reaches sockets ⟨h.registry, .reading (frame :: frames)⟩
            ⟨h.registry, .reading frames⟩ := .forward (by simp [forward?, goesOn, text])
        obtain ⟨further, idle⟩ := ih (start.trans pass) quiet current unaborted
        exact ⟨pass.trans further, idle⟩
      | some message =>
        obtain rfl := Frame.message?_eq_some_iff.1 text
        rw [Frame.messages_text, List.foldl_cons]
        obtain ⟨arrived, idle⟩ := reaches_push pos start quiet current unaborted
        obtain ⟨further, idle'⟩ := ih (start.trans arrived) idle.quiet
          (idle.current.trans current) ((idle.aborted l).trans unaborted)
        exact ⟨arrived.trans further, idle.trans idle'⟩

theorem forward?_of_last (reading : f.forwarder = .reading frames)
    (last : ∀ frame ∈ frames.head?, frame.isLast) : f.forward? = some f.stop := by
  cases frames with
  | nil => simp [forward?, reading]
  | cons frame frames => simp [forward?, reading, last frame rfl]

/-- A host that is given frames forwards them, until none is left or one ends the socket, and then
comes to rest. -/
theorem reaches_feed (pos : 0 < capacity)
    (start : Reaches sockets (Feed.fresh url capacity) ⟨h.registry, .reading frames⟩)
    (quiet : h.registry.isQuiet) (current : h.registry.current = some l)
    (unaborted : h.registry.isAborted l = false) :
    Reaches sockets ⟨h.registry, .reading frames⟩
        ⟨(h.feed frames).registry, if frames.any (·.isLast) then .ended else .reading []⟩ ∧
      (h.feed frames).registry.isQuiet ∧ (h.feed frames).registry.slot = h.registry.slot ∧
      (h.feed frames).registry.ready = [] ∧
      (frames.any (·.isLast) = false → (h.feed frames).registry.current = some l) := by
  obtain ⟨arrived, idle⟩ := reaches_messages pos start quiet current unaborted
  unfold Host.feed
  dsimp only
  generalize (Frame.messages frames).foldl (fun h message => (h.push message).2) h = g at *
  by_cases last : frames.any (·.isLast)
  · rw [if_pos last, if_pos last]
    have quiet : (g.act .disconnect).registry.isQuiet := idle.quiet
    have ended := (g.act .disconnect).reaches_rest
    have resting := Registry.Idle.of_reaches quiet ended
    refine ⟨arrived.trans (.trans (.forward (forward?_of_last rfl fun frame head => ?_))
      (.of_registry quiet ended _)), resting.quiet, resting.slot.trans idle.slot,
      Host.ready_rest _, fun e => ?_⟩
    · have := List.head?_dropWhile_not (!·.isLast) frames
      rw [Option.mem_def.1 head] at this
      simpa using this
    · cases last.symm.trans e
  · rw [if_neg last, if_neg last]
    have ended := g.reaches_rest
    have resting := Registry.Idle.of_reaches idle.quiet ended
    have all : frames.dropWhile (!·.isLast) = [] := by
      rw [List.dropWhile_eq_nil_iff]
      intro frame hf
      simpa using fun e => last (List.any_eq_true.2 ⟨frame, hf, e⟩)
    rw [all] at arrived
    exact ⟨arrived.trans (.of_registry idle.quiet ended _), resting.quiet,
      resting.slot.trans idle.slot, Host.ready_rest _,
      fun _ => resting.current.trans (idle.current.trans current)⟩

/-- All messages have then been handed over, and if the socket has ended the registry says so. -/
theorem complete_of_feed (pos : 0 < capacity)
    (start : Reaches sockets (Feed.fresh url capacity) ⟨h.registry, .reading frames⟩)
    (quiet : h.registry.isQuiet) (slot : h.registry.slot = some l)
    (current : h.registry.current = some l) :
    ∃ fed, (h.feed frames).registry.links[l]? = some fed ∧ fed.Complete (sockets l) ∧
      (frames.any (·.isLast) → fed.reader = .finished ∧
        (h.feed frames).registry.state = .closed) := by
  obtain ⟨_, run⟩ := start
  obtain ⟨_, hh, -⟩ := exists_history run
  have unaborted := ((Registry.orderly_of_run? (.fresh url capacity) hh).kept slot).2
  obtain ⟨reaches, quiet', slot', ready, current'⟩ :=
    reaches_feed pos ⟨_, run⟩ quiet current unaborted
  obtain ⟨actions, run'⟩ := Reaches.trans ⟨_, run⟩ reaches
  obtain ⟨history, hh', -⟩ := exists_history run'
  have forwarding := forwarding_of_run? run'
  have order := Registry.orderly_of_run? (.fresh url capacity) hh'
  obtain ⟨link, found⟩ : ∃ link, (h.feed frames).registry.links[l]? = some link := by
    obtain ⟨⟨p, hp, -⟩, -⟩ := order.kept (slot'.trans slot)
    obtain ⟨link, found, -⟩ := Option.map_eq_some_iff.1 hp
    exact ⟨link, found⟩
  have unaborted : link.aborted = false := by
    simpa [Registry.isAborted, found] using (order.kept (slot'.trans slot)).2
  have started := Registry.started_of_isQuiet order quiet' found
  have blocked := Registry.readStep?_of_ready ready found
  have free : (h.feed frames).registry.onWay l = [] := by
    rw [Registry.onWay, Registry.waiting_eq_nil_of_ready pos hh' quiet' ready]
    rfl
  by_cases last : frames.any (·.isLast)
  · rw [if_pos last] at run' forwarding
    have other : (h.feed frames).registry.current ≠ some l := fun target => by
      cases target.symm.trans (forwarding.current.2 rfl)
    have noSender := Registry.hasSender_eq_false_iff.2 ⟨other, free⟩
    have finished := Registry.finished_of_readStep? found started noSender blocked
    refine ⟨link, found, complete_of_finished run' found finished unaborted, fun _ => ?_⟩
    exact ⟨finished, Registry.state_of_finished hh' quiet' (slot'.trans slot)
      (finished ▸ Registry.reader?_of_links found)⟩
  · rw [if_neg last] at forwarding
    have target := current' (Bool.eq_false_iff.2 last)
    have unfinished : link.reader ≠ .finished := fun finished => by
      have stopped := Registry.aborted_of_finished hh' found finished
        (Registry.hasSender_of_current target)
      cases stopped.symm.trans unaborted
    obtain ⟨receiving, empty, -⟩ :=
      Registry.blocked_of_readStep? found started unfinished blocked
    have all := forwarding.conserved found unaborted
    rw [Registry.handed, Registry.accepted, found, free, toCome, if_pos target] at all
    have accepted : link.accepted = Frame.messages (sockets l) := by
      simpa [Forwarder.left, Frame.messages] using all
    have inOrder := (Registry.inOrder_of_run? hh').links found
    refine ⟨link, found, ⟨accepted, accepted ▸ inOrder.deliveries_eq (.inr unaborted) ?_ ?_⟩,
      fun e => absurd e last⟩
    · rw [receiving]
      rfl
    · exact Nat.le_antisymm inOrder.taken (List.drop_eq_nil_iff.1 empty)

/-! ## The law -/

/-- What becomes of the frames of a socket, in any run and at any moment of it. The link accepts the
texts of the text frames before the first one that ends the socket, in order and each once; unless
its reader is told to stop, those it accepted, the one on its way and those still to come are all of
them. The reader hands over the decodable ones, in that order. Each calls the callbacks stored at
that moment, each once and in the order of the bytes of their names. A reader that finishes without
having been told to stop has handed over all of them and then reported the end. Until then the
forwarder, the messages and the reader can go on to that point by themselves. A host that is given
the frames lets them do so. -/
theorem delivery_of_frames (pos : 0 < capacity)
    (run : (Feed.fresh url capacity).run? sockets actions = some f)
    (found : f.registry.links[l]? = some link) :
    link.accepted <+: Frame.messages (sockets l) ∧
    (link.aborted = false → link.accepted ++ (f.registry.onWay l).map (·.message) ++ f.toCome l =
      Frame.messages (sockets l)) ∧
    link.deliveries.map (·.event) <+: decoded (Frame.messages (sockets l)) ∧
    (∀ k d, link.deliveries[k]? = some d →
      ∃ before after mid taker, actions = before ++ .registry (.read l) :: after ∧
        (Feed.fresh url capacity).run? sockets before = some mid ∧
        mid.registry.links[l]? = some taker ∧ taker.reader = .dispatching d.event ∧
        taker.deliveries.length = k ∧
        (∀ name reg outcome, (name, reg, outcome) ∈ d.calls ↔
          mid.registry.callbacks.stored.get? name = some reg ∧ outcome = reg.callback.outcome) ∧
        d.calls.Pairwise fun a b => Text.utf8 a.1 < Text.utf8 b.1) ∧
    (link.reader = .finished → link.aborted = false →
      link.Complete (sockets l) ∧
      ∃ before after mid next ender, actions = before ++ .registry (.read l) :: after ∧
        (Feed.fresh url capacity).run? sockets before = some mid ∧
        mid.registry.links[l]? = some ender ∧ ender.deliveries = link.deliveries ∧
        mid.act? sockets (.registry (.read l)) = some next ∧ next.registry.state = .closed) ∧
    (link.reader ≠ .unstarted → link.reader ≠ .finished → link.aborted = false →
      ∃ more g next, (∀ a ∈ more, a.isOnward l) ∧ f.run? sockets more = some g ∧
        g.registry.links[l]? = some next ∧ next.reader = .finished ∧ next.Complete (sockets l) ∧
        g.registry.state = .closed) ∧
    (∀ (h : Host) (frames : List Frame), f = ⟨h.registry, .reading frames⟩ →
      f.registry.isQuiet → f.registry.slot = some l → f.registry.current = some l →
      (∃ more, f.run? sockets more = some
        ⟨(h.feed frames).registry, if frames.any (·.isLast) then .ended else .reading []⟩) ∧
      ∃ fed, (h.feed frames).registry.links[l]? = some fed ∧ fed.Complete (sockets l) ∧
        (frames.any (·.isLast) → fed.reader = .finished ∧
          (h.feed frames).registry.state = .closed)) := by
  obtain ⟨history, hh, -⟩ := exists_history run
  have order := (Registry.inOrder_of_run? hh).links found
  have accepted := (forwarding_of_run? run).prefix_messages found
  have dispatched := order.prefix_decoded.trans (accepted.filterMap _)
  refine ⟨accepted, fun unaborted => ?_, dispatched, ?_, ?_, ?_, ?_⟩
  · have all := (forwarding_of_run? run).conserved found unaborted
    rwa [Registry.handed, Registry.accepted, found] at all
  · intro k d delivered
    obtain ⟨before, after, mid, taker, e, hm, old, dispatching, count, calls⟩ :=
      dispatched_of_run? run found delivered
    refine ⟨before, after, mid, taker, e, hm, old, dispatching, count, ?_, ?_⟩
    · intro name reg outcome
      rw [calls, Callbacks.mem_deliver_iff]
    · rw [calls]
      exact Callbacks.pairwise_deliver ..
  · intro finished unaborted
    exact ⟨complete_of_finished run found finished unaborted,
      exists_report_of_run? run found finished unaborted⟩
  · intro started unfinished unaborted
    obtain ⟨more, g, next, onward, run', found', finished, unaborted', closed⟩ :=
      exists_run_finished pos run found started unfinished unaborted
    have all : (Feed.fresh url capacity).run? sockets (actions ++ more) = some g := by
      rw [run?_append_eq, run]
      exact run'
    exact ⟨more, g, next, onward, run', found', finished,
      complete_of_finished all found' finished unaborted', closed⟩
  · rintro h frames rfl quiet slot current
    have unaborted := ((Registry.orderly_of_run? (.fresh url capacity) hh).kept slot).2
    exact ⟨(reaches_feed pos ⟨actions, run⟩ quiet current unaborted).1,
      complete_of_feed pos ⟨actions, run⟩ quiet slot current⟩

/-- Two events, an undecodable text and frames without a message; nothing counts after the close. -/
def noisy : List Frame :=
  [.ping, .text "\x7b\"name\": \"GARDEN_SYNC\"\x7d", .binary, .text "hello",
    .text "\x7b\"name\": \"GARDEN_REMOVED\"\x7d", .close, .text "late"]

/-- A callback is registered and a link opened, then its forwarder and its reader take turns. -/
def received : List FeedAction :=
  [.registry (.draw "panel" ⟨"panel", .nothing⟩), .registry (.store ⟨"panel", 0⟩),
    .registry (.start .connect), .registry (.call 0), .registry (.call 0), .registry (.call 0),
    .registry (.call 0), .forward, .forward, .registry (.send 0), .forward, .forward, .forward,
    .registry (.read 0), .registry (.read 0), .registry (.send 1), .forward, .forward,
    .registry (.read 0), .registry (.send 2), .forward, .forward, .registry (.read 0),
    .registry (.read 0), .registry (.read 0), .registry (.read 0)]

/-- After seven actions the link was just opened, and after all of them its reader has finished. -/
theorem delivery_of_frames_received :
    (∃ f link, (Feed.fresh "ws://garden" 1).run? (fun _ => noisy) (received.take 7) = some f ∧
      f.registry.links[0]? = some link ∧
      (∃ more g next, (∀ a ∈ more, a.isOnward 0) ∧ f.run? (fun _ => noisy) more = some g ∧
        g.registry.links[0]? = some next ∧ next.reader = .finished ∧ next.Complete noisy ∧
        g.registry.state = .closed) ∧
      ∃ fed, ((⟨f.registry, none, [], []⟩ : Host).feed noisy).registry.links[0]? = some fed ∧
        fed.Complete noisy ∧
        ((⟨f.registry, none, [], []⟩ : Host).feed noisy).registry.state = .closed) ∧
    ∃ f link, (Feed.fresh "ws://garden" 1).run? (fun _ => noisy) received = some f ∧
      f.registry.links[0]? = some link ∧ link.Complete noisy ∧ link.deliveries.length = 2 ∧
      (∀ d ∈ link.deliveries, ("panel", ⟨0, "panel", .nothing⟩, .returned) ∈ d.calls) ∧
      ∃ before after mid next, received = before ++ .registry (.read 0) :: after ∧
        (Feed.fresh "ws://garden" 1).run? (fun _ => noisy) before = some mid ∧
        mid.act? (fun _ => noisy) (.registry (.read 0)) = some next ∧
        next.registry.state = .closed := by
  constructor
  · obtain ⟨⟨r, forwarder⟩, run, link, found, started, unfinished, unaborted, rfl, quiet, slot,
        current⟩ :
        ∃ f ∈ (Feed.fresh "ws://garden" 1).run? (fun _ => noisy) (received.take 7),
          ∃ link ∈ f.registry.links[0]?, link.reader ≠ .unstarted ∧ link.reader ≠ .finished ∧
          link.aborted = false ∧ f.forwarder = .reading noisy ∧ f.registry.isQuiet ∧
          f.registry.slot = some 0 ∧ f.registry.current = some 0 := by
      decide +kernel
    obtain ⟨-, -, -, -, -, goesOn, feeds⟩ := delivery_of_frames (by decide) run found
    obtain ⟨-, fed, there, complete, closed⟩ := feeds ⟨r, none, [], []⟩ noisy rfl quiet slot current
    exact ⟨_, link, run, found, goesOn started unfinished unaborted, fed, there, complete,
      (closed rfl).2⟩
  · obtain ⟨f, run, link, found, finished, unaborted, two⟩ :
        ∃ f ∈ (Feed.fresh "ws://garden" 1).run? (fun _ => noisy) received,
          ∃ link ∈ f.registry.links[0]?, link.reader = .finished ∧ link.aborted = false ∧
          link.deliveries.length = 2 := by
      decide +kernel
    have stored : ∀ i < received.length, received[i]? = some (.registry (.read 0)) →
        ∀ mid ∈ (Feed.fresh "ws://garden" 1).run? (fun _ => noisy) (received.take i),
          mid.registry.callbacks.stored.get? "panel" = some ⟨0, "panel", .nothing⟩ := by
      decide +kernel
    obtain ⟨-, -, -, dispatches, ends, -, -⟩ := delivery_of_frames (by decide) run found
    obtain ⟨complete, before, after, mid, next, -, e, hm, -, -, act, closed⟩ :=
      ends finished unaborted
    refine ⟨f, link, run, found, complete, two, fun d hd => ?_, before, after, mid, next, e, hm, act,
      closed⟩
    obtain ⟨k, delivered⟩ := List.getElem?_of_mem hd
    obtain ⟨first, last, fed, -, e, hf, -, -, -, calls, -⟩ := dispatches k d delivered
    refine (calls _ _ _).2 ⟨stored first.length ?_ ?_ fed ?_, rfl⟩
    · simp [e]
    · simp [e]
    · rw [e, List.take_left]
      exact hf

end Feed

end GardenAdmin
