import GardenAdmin.Proofs.Events.Waiting

/-!
# Forwarding frames

`Feed.Step sockets a f g`: the action `a` takes `f` to `g`, one rule for each thing that can happen.
A run of a feed is a run of its registry in which the server does what the forwarder tells it to
(`Feed.exists_history`).

`Feed.Forwarding` is what a run keeps: the messages that a link accepted, the one on its way to it
and those of the frames still to come are together the messages of its socket, in this order. Only a
link whose reader was told to stop may miss the last of them.
-/

namespace GardenAdmin

namespace Frame

variable {frame : Frame} {frames : List Frame}

theorem messages_text (s : String) (frames : List Frame) :
    messages (.text s :: frames) = s :: messages frames := rfl

theorem messages_of_message?_eq_none (goesOn : frame.isLast = false)
    (noise : frame.message? = none) : messages (frame :: frames) = messages frames := by
  rw [messages, List.takeWhile_cons_of_pos (by rw [goesOn]; rfl), List.filterMap_cons_none noise,
    messages]

theorem messages_of_isLast (last : ∀ frame ∈ frames.head?, frame.isLast) :
    messages frames = [] := by
  cases frames with
  | nil => rfl
  | cons frame frames =>
    rw [messages, List.takeWhile_cons_of_neg (by simp [last frame rfl])]
    rfl

theorem message?_eq_some_iff {s : String} : frame.message? = some s ↔ frame = .text s := by
  cases frame <;> simp [message?]

end Frame

namespace Feed

variable {sockets : LinkId → List Frame} {url : String} {capacity : Nat} {f g : Feed}
  {a : FeedAction} {actions : List FeedAction} {l : LinkId}

theorem registry_follow (sockets : LinkId → List Frame) (f : Feed) (r : Registry) :
    (f.follow sockets r).registry = r := by
  unfold follow
  split <;> rfl

/-! ## Steps -/

/-- What one step does. The forwarder steps by what it is about to do. -/
inductive Step (sockets : LinkId → List Frame) : FeedAction → Feed → Feed → Prop where
  /-- The registry goes on and opens no link. -/
  | registry {f : Feed} {a : Action} {r : Registry} (own : a.isServers = false)
      (act : f.registry.act? a = some r) (links : r.links.length = f.registry.links.length)
      (current : r.current = f.registry.current) :
      Step sockets (.registry a) f ⟨r, f.forwarder⟩
  /-- A link is opened, and forwarding starts. -/
  | opened {f : Feed} {c : CallId} {kind : CallKind} {r : Registry}
      (act : f.registry.act? (.call c) = some r)
      (call : f.registry.calls[c]? = some ⟨kind, .opening⟩)
      (links : r.links = f.registry.links ++ [({} : Link)])
      (current : r.current = some f.registry.links.length) :
      Step sockets (.registry (.call c)) f ⟨r, .reading (sockets f.registry.links.length)⟩
  /-- The socket is closed, has failed or has ended. -/
  | last {f : Feed} {frames : List Frame} (reading : f.forwarder = .reading frames)
      (last : ∀ frame ∈ frames.head?, frame.isLast) : Step sockets .forward f f.stop
  | pass {f : Feed} {frame : Frame} {frames : List Frame}
      (reading : f.forwarder = .reading (frame :: frames)) (goesOn : frame.isLast = false)
      (noise : frame.message? = none) : Step sockets .forward f ⟨f.registry, .reading frames⟩
  | send {f : Feed} {message : String} {frames : List Frame}
      (reading : f.forwarder = .reading (.text message :: frames)) :
      Step sockets .forward f ⟨f.registry.push message, .sending f.registry.nextPush frames⟩
  /-- The link has taken the message. -/
  | sent {f : Feed} {id : PushId} {frames : List Frame} (sending : f.forwarder = .sending id frames)
      (gone : ∀ p ∈ f.registry.waiting, p.id ≠ id) (kept : id ∉ f.registry.lost) :
      Step sockets .forward f ⟨f.registry, .reading frames⟩
  /-- The message was lost. -/
  | cut {f : Feed} {id : PushId} {frames : List Frame} (sending : f.forwarder = .sending id frames)
      (lost : id ∈ f.registry.lost) : Step sockets .forward f f.stop
  | hangUp {f : Feed} {frames : List Frame} (reading : f.forwarder = .reading frames)
      (noReceiver : f.registry.receiver? = none) : Step sockets .hangUp f f.stop

theorem step_of_forward? (h : f.forward? = some g) : Step sockets .forward f g := by
  unfold forward? at h
  split at h
  · next reading =>
    cases h
    exact .last reading nofun
  · next frame frames reading =>
    split at h
    · next last =>
      cases h
      refine .last reading fun _ e => ?_
      cases e
      exact last
    · next goesOn =>
      split at h
      · next message text =>
        cases h
        rw [Frame.message?_eq_some_iff.1 text] at reading
        exact .send reading
      · next noise =>
        cases h
        exact .pass reading (Bool.eq_false_iff.2 goesOn) noise
  · next id frames sending =>
    split at h
    · cases h
    · next gone =>
      split at h
      · next lost =>
        cases h
        exact .cut sending lost
      · next kept =>
        cases h
        refine .sent sending (fun p hp e => gone ?_) kept
        exact List.any_eq_true.2 ⟨p, hp, decide_eq_true e⟩
  · cases h

theorem step_of_act? (h : f.act? sockets a = some g) : Step sockets a f g := by
  cases a with
  | registry a =>
    simp only [act?] at h
    split at h
    · cases h
    · next own =>
      obtain ⟨r, act, rfl⟩ := Option.map_eq_some_iff.1 h
      have own : a.isServers = false := Bool.eq_false_iff.2 own
      rcases Registry.opened_of_step (Registry.step_of_act? act) with
        ⟨links, current⟩ | ⟨c, kind, rfl, call, links, current⟩
      · rw [follow, if_pos links]
        exact .registry own act links (current fun e => by rw [e] at own; cases own)
      · rw [follow, if_neg]
        · exact .opened act call links current
        · rw [links, List.length_append]
          exact Nat.succ_ne_self _
  | forward => exact step_of_forward? h
  | hangUp =>
    simp only [act?, hangUp?] at h
    split at h
    · next reading =>
      simp only [Option.ite_none_right_eq_some, Option.isNone_iff_eq_none] at h
      obtain ⟨noReceiver, h⟩ := h
      cases h
      exact .hangUp reading noReceiver
    · cases h
    · cases h

/-- A step of a feed is one of its registry, unless it leaves the registry alone. What the registry
does by itself it does in a step of its own. -/
theorem registry_of_step (step : Step sockets a f g) :
    g.registry = f.registry ∨
      ∃ b, f.registry.act? b = some g.registry ∧ (a = .registry b ∨ b.isServers) := by
  cases step with
  | registry _ act | opened act => exact .inr ⟨_, act, .inl rfl⟩
  | last | cut | hangUp => exact .inr ⟨.disconnect, rfl, .inr rfl⟩
  | send => exact .inr ⟨.push _, rfl, .inr rfl⟩
  | pass | sent => exact .inl rfl

/-! ## Runs -/

theorem run?_cons {after : List FeedAction} {h : Feed} (first : f.act? sockets a = some g)
    (rest : g.run? sockets after = some h) : f.run? sockets (a :: after) = some h := by
  unfold run? at *
  rw [List.foldlM_cons, first]
  exact rest

theorem run?_append_eq (before after : List FeedAction) :
    f.run? sockets (before ++ after) =
      (f.run? sockets before).bind fun g => g.run? sockets after := by
  unfold run?
  exact List.foldlM_append

theorem run?_concat {before : List FeedAction} (h : f.run? sockets (before ++ [a]) = some g) :
    ∃ mid, f.run? sockets before = some mid ∧ mid.act? sockets a = some g := by
  rw [run?_append_eq] at h
  obtain ⟨mid, hm, h⟩ := Option.bind_eq_some_iff.1 h
  exact ⟨mid, hm, by simpa [run?] using h⟩

theorem run?_induction {P : List FeedAction → Feed → Prop} (init : P [] f)
    (step : ∀ {before a mid next}, f.run? sockets before = some mid → P before mid →
      Step sockets a mid next → P (before ++ [a]) next)
    (h : f.run? sockets actions = some g) : P actions g := by
  induction actions using List.reverseRecOn generalizing g with
  | nil => cases h; exact init
  | append_singleton before a ih =>
    obtain ⟨mid, hm, ha⟩ := run?_concat h
    exact step hm (ih hm) (step_of_act? ha)

/-- What happened at the registry in the course of a run. A step of a reader is one of the run. -/
theorem exists_history (run : (fresh url capacity).run? sockets actions = some f) :
    ∃ history, (Registry.fresh url capacity).run? history = some f.registry ∧
      ∀ {l : LinkId} {before after : List Action}, history = before ++ .read l :: after →
        ∃ first last mid, actions = first ++ .registry (.read l) :: last ∧
          (fresh url capacity).run? sockets first = some mid ∧
          (Registry.fresh url capacity).run? before = some mid.registry := by
  refine run?_induction (P := fun actions f => ∃ history,
    (Registry.fresh url capacity).run? history = some f.registry ∧
    ∀ {l : LinkId} {before after : List Action}, history = before ++ .read l :: after →
      ∃ first last mid, actions = first ++ .registry (.read l) :: last ∧
        (fresh url capacity).run? sockets first = some mid ∧
        (Registry.fresh url capacity).run? before = some mid.registry) ?_ ?_ run
  · refine ⟨[], rfl, fun {l before after} e => ?_⟩
    cases before <;> cases e
  · rintro sofar a mid next hm ⟨history, hh, lift⟩ step
    have old {l : LinkId} {before after : List Action} (e : history = before ++ .read l :: after) :
        ∃ first last earlier, sofar ++ [a] = first ++ .registry (.read l) :: last ∧
          (fresh url capacity).run? sockets first = some earlier ∧
          (Registry.fresh url capacity).run? before = some earlier.registry := by
      obtain ⟨first, last, earlier, rfl, rest⟩ := lift e
      exact ⟨first, last ++ [a], earlier, by simp, rest⟩
    rcases registry_of_step step with same | ⟨b, act, own⟩
    · exact ⟨history, same ▸ hh, old⟩
    · refine ⟨history ++ [b], ?_, fun {l before after} e => ?_⟩
      · rw [Registry.run?, List.foldlM_append]
        exact Option.bind_eq_some_iff.2 ⟨mid.registry, hh, Registry.run?_cons act rfl⟩
      · rcases Registry.concat_eq_append_cons e with ⟨rfl, rfl, rfl⟩ | ⟨rest, rfl, rfl⟩
        · rcases own with rfl | server
          · exact ⟨sofar, [], mid, rfl, hm, hh⟩
          · cases server
        · exact old rfl

/-! ## What a run keeps -/

/-- The messages of the frames that are still to come on a link. -/
def toCome (f : Feed) (l : LinkId) : List String :=
  if f.registry.current = some l then Frame.messages f.forwarder.left else []

/-- The message that is being sent was lost. -/
def IsCut (f : Feed) : Prop :=
  ∃ id frames, f.forwarder = .sending id frames ∧ id ∈ f.registry.lost

structure Forwarding (sockets : LinkId → List Frame) (f : Feed) : Prop where
  /-- Frames are forwarded while the server pushes to a link. -/
  current : f.registry.current = none ↔ f.forwarder = .ended
  /-- One message at a time is on its way to a link. -/
  alone : ∀ l, (f.registry.onWay l).length ≤ 1
  reading : ∀ {l frames}, f.registry.current = some l → f.forwarder = .reading frames →
    f.registry.onWay l = []
  /-- The message that is being sent is the one on its way; it is lost only to a reader that was told
  to stop. -/
  sending : ∀ {l id frames}, f.registry.current = some l → f.forwarder = .sending id frames →
    (∀ p ∈ f.registry.waiting, p.id = id ↔ p.link = l) ∧
      (id ∈ f.registry.lost → f.registry.isAborted l)
  /-- When the server pushes to a link no more, nothing is on its way to it, unless its reader was
  told to stop. -/
  gone : ∀ {l}, l < f.registry.links.length → f.registry.current ≠ some l →
    f.registry.isAborted l ∨ f.registry.onWay l = []
  /-- The messages of a socket are handed to its link or still to come, unless the reader was told
  to stop. -/
  told : ∀ {l}, l < f.registry.links.length →
    ∃ rest, f.registry.handed l ++ rest = Frame.messages (sockets l) ∧
      (rest = f.toCome l ∨
        f.registry.isAborted l ∧ (f.registry.current = some l → f.IsCut))

namespace Forwarding

theorem fresh (sockets : LinkId → List Frame) (url : String) (capacity : Nat) :
    Forwarding sockets (Feed.fresh url capacity) where
  current := ⟨fun _ => rfl, fun _ => rfl⟩
  alone _ := Nat.zero_le 1
  reading current := by cases current
  sending current := by cases current
  gone lt := absurd lt (Nat.not_lt_zero _)
  told lt := absurd lt (Nat.not_lt_zero _)

/-- Forwarding ends when no more messages come, or the reader was told to stop. -/
theorem stop (h : Forwarding sockets f)
    (ended : ∀ l, f.registry.current = some l →
      f.registry.isAborted l ∨ f.registry.onWay l = [] ∧ f.toCome l = []) :
    Forwarding sockets f.stop where
  current := ⟨fun _ => rfl, fun _ => rfl⟩
  alone := h.alone
  reading current := by cases current
  sending current := by cases current
  gone {l} lt _ := by
    by_cases current : f.registry.current = some l
    · exact (ended l current).imp_right And.left
    · exact h.gone lt current
  told {l} lt := by
    obtain ⟨rest, told, rest_eq⟩ := h.told lt
    refine ⟨rest, told, ?_⟩
    rcases rest_eq with rfl | ⟨aborted, -⟩
    · by_cases current : f.registry.current = some l
      · rcases ended l current with aborted | ⟨-, left⟩
        · exact .inr ⟨aborted, nofun⟩
        · exact .inl left
      · exact .inl (if_neg current)
    · exact .inr ⟨aborted, nofun⟩

/-- The forwarder stays where it is, and nothing new is on its way. -/
theorem keep (h : Forwarding sockets f) {r : Registry} (current : r.current = f.registry.current)
    (links : r.links.length = f.registry.links.length)
    (fewer : r.waiting.Sublist f.registry.waiting)
    (aborted : ∀ l, f.registry.isAborted l → r.isAborted l)
    (lost : ∀ {l id frames}, f.registry.current = some l → f.forwarder = .sending id frames →
      id ∈ r.lost → r.isAborted l)
    (told : ∀ {l}, l < f.registry.links.length →
      ∃ rest, r.handed l ++ rest = Frame.messages (sockets l) ∧
        (rest = f.toCome l ∨
          r.isAborted l ∧ (f.registry.current = some l → IsCut ⟨r, f.forwarder⟩))) :
    Forwarding sockets ⟨r, f.forwarder⟩ := by
  have onWay (l : LinkId) : (r.onWay l).Sublist (f.registry.onWay l) := fewer.filter _
  have toCome (l : LinkId) : Feed.toCome ⟨r, f.forwarder⟩ l = f.toCome l := by
    rw [Feed.toCome, current, Feed.toCome]
  refine ⟨?_, fun l => (onWay l).length_le.trans (h.alone l), ?_, ?_, ?_, ?_⟩
  · rw [current]
    exact h.current
  · intro l frames target reading
    rw [current] at target
    exact List.sublist_nil.1 (h.reading target reading ▸ onWay l)
  · intro l id frames target sending
    rw [current] at target
    exact ⟨fun p hp => (h.sending target sending).1 p (fewer.subset hp), lost target sending⟩
  · intro l lt target
    rw [links] at lt
    rw [current] at target
    refine (h.gone lt target).imp (aborted l) fun e => ?_
    exact List.sublist_nil.1 (e ▸ onWay l)
  · intro l lt
    rw [links] at lt
    rw [toCome, current]
    exact told lt

/-- The registry goes on and opens no link. -/
theorem registry (h : Forwarding sockets f) {history : List Action}
    (run : (Registry.fresh url capacity).run? history = some f.registry) {a : Action} {r : Registry}
    (own : a.isServers = false) (act : f.registry.act? a = some r)
    (links : r.links.length = f.registry.links.length) (current : r.current = f.registry.current) :
    Forwarding sockets ⟨r, f.forwarder⟩ := by
  have numbered := Registry.numbered_of_run? run
  have order := Registry.orderly_of_run? (.fresh url capacity) run
  have step := Registry.step_of_act? act
  have aborted (l : LinkId) := Registry.isAborted_of_step (l := l) order step
  rcases Registry.handed_of_step numbered h.alone step own with
    ⟨fewer, handed, lost⟩ | ⟨p, link, hp, found, finished, rfl⟩
  · refine h.keep current links fewer aborted ?_ fun {l} lt => ?_
    · intro l id frames target sending cut
      exact aborted l ((h.sending target sending).2 (lost ▸ cut))
    · obtain ⟨rest, told, rest_eq⟩ := h.told lt
      refine ⟨rest, handed l ▸ told, rest_eq.imp_right fun ⟨stopped, cut⟩ => ?_⟩
      refine ⟨aborted l stopped, fun target => ?_⟩
      obtain ⟨id, frames, sending, cut⟩ := cut target
      exact ⟨id, frames, sending, lost.symm ▸ cut⟩
  · -- the reader of the link has finished next to a sender, so it was told to stop
    have stopped : f.registry.isAborted p.link :=
      Registry.isAborted_iff.2 ⟨link, found,
        Registry.aborted_of_finished run found finished (Registry.hasSender_of_mem hp)⟩
    refine h.keep current links List.filter_sublist aborted ?_ fun {l} lt => ?_
    · intro l id frames target sending cut
      obtain ⟨own, cut'⟩ := h.sending target sending
      rcases List.mem_cons.1 cut with rfl | cut
      · exact (own p hp).1 rfl ▸ stopped
      · exact cut' cut
    · obtain ⟨rest, told, rest_eq⟩ := h.told lt
      rw [Registry.handed_lose numbered hp (h.alone _)]
      split
      · next bound =>
        subst bound
        rw [Registry.handed_eq hp (h.alone _), List.append_assoc] at told
        refine ⟨p.message :: rest, told, .inr ⟨stopped, fun target => ?_⟩⟩
        cases forwarder : f.forwarder with
        | ended =>
          rw [h.current.2 forwarder] at target
          cases target
        | reading frames =>
          have onWay := h.reading target forwarder
          rw [Registry.onWay_eq_singleton hp (h.alone _)] at onWay
          cases onWay
        | sending id frames =>
          have own := ((h.sending target forwarder).1 p hp).2 rfl
          exact ⟨id, frames, rfl, own ▸ List.mem_cons_self⟩
      · refine ⟨rest, told, rest_eq.imp_right fun ⟨stopped, cut⟩ => ⟨stopped, fun target => ?_⟩⟩
        obtain ⟨id, frames, sending, cut⟩ := cut target
        exact ⟨id, frames, sending, List.mem_cons_of_mem _ cut⟩

/-- A link is opened. Where an earlier one had a sender, its reader was told to stop. -/
theorem opened (h : Forwarding sockets f) {history : List Action}
    (run : (Registry.fresh url capacity).run? history = some f.registry) {c : CallId}
    {kind : CallKind} {r : Registry} (act : f.registry.act? (.call c) = some r)
    (call : f.registry.calls[c]? = some ⟨kind, .opening⟩)
    (links : r.links = f.registry.links ++ [({} : Link)])
    (current : r.current = some f.registry.links.length) :
    Forwarding sockets ⟨r, .reading (sockets f.registry.links.length)⟩ := by
  have numbered := Registry.numbered_of_run? run
  have order := Registry.orderly_of_run? (.fresh url capacity) run
  have step := Registry.step_of_act? act
  have aborted (l : LinkId) := Registry.isAborted_of_step (l := l) order step
  have onWay (l : LinkId) : r.onWay l = f.registry.onWay l := by
    rw [Registry.onWay, Registry.waiting_of_call step, Registry.onWay]
  have handed (l : LinkId) : r.handed l = f.registry.handed l := by
    rw [Registry.handed, onWay, Registry.accepted_of_opened links, Registry.handed]
  have old {l : LinkId} (lt : l < r.links.length) :
      l < f.registry.links.length ∨ l = f.registry.links.length := by
    rw [links, List.length_append] at lt
    exact Nat.lt_or_eq_of_le (Nat.le_of_lt_succ lt)
  have stopped {l : LinkId} (lt : l < f.registry.links.length)
      (target : f.registry.current = some l) : f.registry.isAborted l := by
    have found := List.getElem?_eq_getElem lt
    refine Registry.isAborted_iff.2 ⟨_, found, ?_⟩
    exact Registry.aborted_of_opening run (Registry.phase?_of_calls call) found
      (Registry.hasSender_of_current target)
  refine ⟨⟨fun e => ?_, fun e => (by cases e)⟩, fun l => onWay l ▸ h.alone l, ?_,
    fun _ e => (by cases e), ?_, ?_⟩
  · cases current.symm.trans e
  · rintro l frames target -
    obtain rfl := Option.some.inj (current.symm.trans target)
    rw [onWay]
    exact (numbered.handed_eq_nil (Nat.le_refl _)).1
  · intro l lt other
    have lt := (old lt).resolve_right fun e => other (e ▸ current)
    rw [onWay]
    by_cases target : f.registry.current = some l
    · exact .inl (aborted l (stopped lt target))
    · exact (h.gone lt target).imp_left (aborted l)
  · intro l lt
    rw [handed]
    rcases old lt with lt | rfl
    · obtain ⟨rest, told, rest_eq⟩ := h.told lt
      have other : r.current ≠ some l := fun e =>
        Nat.ne_of_gt lt (Option.some.inj (current.symm.trans e))
      by_cases target : f.registry.current = some l
      · exact ⟨rest, told, .inr ⟨aborted l (stopped lt target), fun e => absurd e other⟩⟩
      · refine ⟨rest, told, rest_eq.imp (fun e => ?_) fun e => ?_⟩
        · rw [e, toCome, toCome, if_neg target, if_neg other]
        · exact ⟨aborted l e.1, fun e => absurd e other⟩
    · refine ⟨_, ?_, .inl rfl⟩
      rw [(numbered.handed_eq_nil (Nat.le_refl _)).2, toCome, if_pos current]
      rfl

/-- The forwarder goes on to the next frame. -/
theorem next (h : Forwarding sockets f) {frames : List Frame} (active : f.forwarder ≠ .ended)
    (left : Frame.messages f.forwarder.left = Frame.messages frames)
    (free : ∀ l, f.registry.current = some l → f.registry.onWay l = []) (whole : ¬f.IsCut) :
    Forwarding sockets ⟨f.registry, .reading frames⟩ where
  current := ⟨fun e => absurd (h.current.1 e) active, nofun⟩
  alone := h.alone
  reading {l _} target _ := free l target
  sending _ := nofun
  gone := h.gone
  told {l} lt := by
    obtain ⟨rest, told, rest_eq⟩ := h.told lt
    refine ⟨rest, told, rest_eq.imp (fun e => ?_) fun ⟨stopped, cut⟩ => ⟨stopped, fun target => ?_⟩⟩
    · rw [e, toCome, toCome, left]
      rfl
    · exact absurd (cut target) whole

/-- A message is sent. -/
theorem send (h : Forwarding sockets f) {history : List Action}
    (run : (Registry.fresh url capacity).run? history = some f.registry) {message : String}
    {frames : List Frame} (reading : f.forwarder = .reading (.text message :: frames)) :
    Forwarding sockets ⟨f.registry.push message, .sending f.registry.nextPush frames⟩ := by
  have numbered := Registry.numbered_of_run? run
  cases target : f.registry.current with
  | none => cases (h.current.1 target).symm.trans reading
  | some k =>
    have free := h.reading target reading
    have pushed := Registry.push_of_current target message
    have onWay (l : LinkId) : (f.registry.push message).onWay l =
        if k = l then [⟨f.registry.nextPush, message, k⟩] else f.registry.onWay l := by
      rw [pushed, Registry.onWay, List.filter_append, List.filter_singleton, ← Registry.onWay]
      by_cases same : k = l
      · subst same
        simp [free]
      · simp [same]
    have accepted (l : LinkId) : (f.registry.push message).accepted l = f.registry.accepted l := by
      rw [pushed]
      rfl
    have same : (f.registry.push message).current = some k ∧
        (f.registry.push message).links = f.registry.links := by
      rw [pushed]
      exact ⟨target, rfl⟩
    refine ⟨⟨fun e => ?_, fun e => (by cases e)⟩, fun l => ?_, fun _ e => (by cases e), ?_, ?_, ?_⟩
    · cases same.1.symm.trans e
    · rw [onWay]
      split
      · exact Nat.le_refl 1
      · exact h.alone l
    · rintro l id frames' target' e
      cases e
      obtain rfl := Option.some.inj (same.1.symm.trans target')
      rw [pushed]
      refine ⟨fun p hp => ?_, fun lost => absurd (numbered.lost _ lost) (Nat.lt_irrefl _)⟩
      rcases List.mem_append.1 hp with hp | hp
      · have before := (numbered.waiting p hp).1
        refine ⟨fun e => absurd e (Nat.ne_of_lt before), fun bound => ?_⟩
        have mem := Registry.mem_onWay.2 ⟨hp, bound⟩
        rw [free] at mem
        cases mem
      · rw [List.mem_singleton.1 hp]
        exact ⟨fun _ => rfl, fun _ => rfl⟩
    · intro l lt other
      rw [same.2] at lt
      rw [same.1] at other
      rw [onWay, if_neg fun e => other (congrArg some e), Registry.isAborted, same.2]
      exact h.gone lt (target ▸ other)
    · intro l lt
      rw [same.2] at lt
      obtain ⟨rest, told, rest_eq⟩ := h.told lt
      rw [Registry.handed, accepted, onWay, toCome, same.1, Registry.isAborted, same.2]
      by_cases bound : k = l
      · subst bound
        rw [Registry.handed, free] at told
        rcases rest_eq with rfl | ⟨-, cut⟩
        · refine ⟨Frame.messages frames, ?_, .inl (if_pos rfl).symm⟩
          rw [toCome, if_pos target, reading, Forwarder.left, Frame.messages_text] at told
          simpa using told
        · obtain ⟨id, frames', sending, -⟩ := cut target
          cases reading.symm.trans sending
      · have other : some k ≠ some l := fun e => bound (Option.some.inj e)
        rw [if_neg bound, if_neg other]
        refine ⟨rest, told, rest_eq.imp (fun e => ?_) fun e => ⟨e.1, fun e => absurd e other⟩⟩
        rw [e, toCome, target, if_neg other]

theorem step (h : Forwarding sockets f) {history : List Action}
    (run : (Registry.fresh url capacity).run? history = some f.registry)
    (step : Step sockets a f g) : Forwarding sockets g := by
  cases step with
  | registry own act links current => exact h.registry run own act links current
  | opened act call links current => exact h.opened run act call links current
  | last reading last =>
    refine h.stop fun l target => .inr ⟨h.reading target reading, ?_⟩
    rw [toCome, if_pos target, reading]
    exact Frame.messages_of_isLast last
  | pass reading goesOn noise =>
    refine h.next (by rw [reading]; nofun) ?_ (fun l target => h.reading target reading) ?_
    · rw [reading]
      exact Frame.messages_of_message?_eq_none goesOn noise
    · rintro ⟨id, frames, sending, -⟩
      cases reading.symm.trans sending
  | send reading => exact h.send run reading
  | @sent _ id frames sending gone kept =>
    refine h.next (by rw [sending]; nofun) (by rw [sending]; rfl) (fun l target => ?_) ?_
    · refine List.eq_nil_iff_forall_not_mem.2 fun p hp => ?_
      obtain ⟨hp, bound⟩ := Registry.mem_onWay.1 hp
      exact gone p hp (((h.sending target sending).1 p hp).2 bound)
    · rintro ⟨id', frames', sending', cut⟩
      cases sending.symm.trans sending'
      exact kept cut
  | cut sending lost => exact h.stop fun l target => .inl ((h.sending target sending).2 lost)
  | hangUp reading noReceiver =>
    refine h.stop fun l target => .inl ?_
    have found := List.getElem?_eq_getElem ((Registry.numbered_of_run? run).current l target)
    have finished := Registry.finished_of_receiver? noReceiver target found
    exact Registry.isAborted_iff.2 ⟨_, found,
      Registry.aborted_of_finished run found finished (Registry.hasSender_of_current target)⟩

end Forwarding

theorem forwarding_of_run? (run : (Feed.fresh url capacity).run? sockets actions = some f) :
    Forwarding sockets f := by
  refine run?_induction (P := fun _ f => Forwarding sockets f) (.fresh sockets url capacity) ?_ run
  intro before a mid next hm ih step
  obtain ⟨history, hh, -⟩ := exists_history hm
  exact ih.step hh step

end Feed

end GardenAdmin
