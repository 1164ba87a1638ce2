import GardenAdmin.Events.Registry
import Mathlib.Data.List.Induction

/-!
# Runs of a registry

`Registry.Step a r s`: the action `a` takes `r` to `s`, one rule for each thing that can happen.
Every step of the registry is of one of these kinds (`Registry.step_of_act?`), and what holds of a
fresh registry and is kept by each of them holds after any run (`Registry.run?_induction`).
-/

namespace GardenAdmin

theorem getElem?_concat {α : Type} (xs : List α) (a : α) (i : Nat) :
    (xs ++ [a])[i]? = if xs.length = i then some a else xs[i]? := by
  rcases Nat.lt_trichotomy i xs.length with lt | rfl | gt
  · rw [List.getElem?_append_left lt, if_neg (Nat.ne_of_gt lt)]
  · rw [List.getElem?_concat_length, if_pos rfl]
  · have beyond : (xs ++ [a]).length ≤ i := by rw [List.length_append]; exact gt
    rw [if_neg (Nat.ne_of_lt gt), List.getElem?_eq_none beyond,
      List.getElem?_eq_none (Nat.le_of_lt gt)]

namespace Registry

/-! ## What an update changes -/

theorem phase?_of_calls {r : Registry} {c : CallId} {call : Call} (h : r.calls[c]? = some call) :
    r.phase? c = some call.phase := by
  rw [phase?, h]; rfl

theorem reader?_of_links {r : Registry} {l : LinkId} {link : Link} (h : r.links[l]? = some link) :
    r.reader? l = some link.reader := by
  rw [reader?, h]; rfl

theorem calls_setPhase {r : Registry} {c : CallId} {call : Call} (h : r.calls[c]? = some call)
    (p : CallPhase) (d : CallId) :
    (r.setPhase c p).calls[d]? = if c = d then some { call with phase := p } else r.calls[d]? := by
  simp only [setPhase, List.getElem?_modify]
  split
  · next e => subst e; rw [h]; rfl
  · exact id_map _

theorem phase?_setPhase {r : Registry} {c : CallId} {call : Call} (h : r.calls[c]? = some call)
    (p : CallPhase) (d : CallId) :
    (r.setPhase c p).phase? d = if c = d then some p else r.phase? d := by
  rw [phase?, calls_setPhase h]
  split <;> rfl

/-- A call in another phase than the one that goes on stays in it. -/
theorem phase?_setPhase_of_ne {r : Registry} {c d : CallId} {call : Call} {p q : CallPhase}
    (h : r.calls[c]? = some call) (hd : r.phase? d = some q) (ne : call.phase ≠ q) :
    (r.setPhase c p).phase? d = some q := by
  rw [phase?_setPhase h, if_neg]
  · exact hd
  · rintro rfl
    exact ne (Option.some.inj ((phase?_of_calls h).symm.trans hd))

theorem phase?_start (r : Registry) (kind : CallKind) (d : CallId) :
    (r.start kind).phase? d = if r.calls.length = d then some .queued else r.phase? d := by
  simp only [phase?, start, getElem?_concat]
  split <;> rfl

theorem links_updateLink {r : Registry} {l : LinkId} {link : Link} (h : r.links[l]? = some link)
    (f : Link → Link) (k : LinkId) :
    (r.updateLink l f).links[k]? = if l = k then some (f link) else r.links[k]? := by
  simp only [updateLink, List.getElem?_modify]
  split
  · next e => subst e; rw [h]; rfl
  · exact id_map _

theorem reader?_updateLink {r : Registry} {l : LinkId} {link : Link} (h : r.links[l]? = some link)
    (f : Link → Link) (k : LinkId) :
    (r.updateLink l f).reader? k = if l = k then some (f link).reader else r.reader? k := by
  rw [reader?, links_updateLink h]
  split <;> rfl

/-- An update that leaves a part of the links alone. -/
theorem map_updateLink_of_eq {α : Type} (r : Registry) (l : LinkId) {f : Link → Link} {g : Link → α}
    (h : ∀ link, g (f link) = g link) (k : LinkId) :
    ((r.updateLink l f).links[k]?).map g = (r.links[k]?).map g := by
  rw [updateLink, List.getElem?_modify]
  cases r.links[k]? with
  | none => rfl
  | some link =>
    split
    · exact congrArg some (h link)
    · rfl

theorem reader?_updateLink_of_eq (r : Registry) (l : LinkId) {f : Link → Link}
    (h : ∀ link, (f link).reader = link.reader) (k : LinkId) :
    (r.updateLink l f).reader? k = r.reader? k :=
  map_updateLink_of_eq r l h k

theorem isLive_eq (r : Registry) (l : LinkId) : r.isLive l = (r.reader? l).any (·.isRunning) := by
  rw [isLive, reader?, Option.any_map]
  rfl

theorem isLive_iff {r : Registry} {l : LinkId} :
    r.isLive l ↔ ∃ p, r.reader? l = some p ∧ p.isRunning := by
  rw [isLive_eq, Option.any_eq_true]

/-- An update after which a reader is at work if it was before. -/
theorem isLive_updateLink_of_eq (r : Registry) (l : LinkId) {f : Link → Link}
    (h : ∀ link, r.links[l]? = some link → (f link).isRunning = link.isRunning) (k : LinkId) :
    (r.updateLink l f).isLive k = r.isLive k := by
  rw [isLive, updateLink, List.getElem?_modify, isLive]
  split
  · next e =>
    subst e
    cases found : r.links[l]? with
    | none => rfl
    | some link => exact h link found
  · exact congrArg _ (id_map _)

theorem isLive_accept (r : Registry) (p : Push) (l : LinkId) : (r.accept p).isLive l = r.isLive l :=
  isLive_updateLink_of_eq r p.link
    (f := fun link => { link with accepted := link.accepted ++ [p.message] }) (fun _ _ => rfl) l

theorem activeLink?_eq_some_iff {r : Registry} {l : LinkId} :
    r.activeLink? = some l ↔ r.slot = some l ∧ r.isLive l := by
  simp only [activeLink?, Option.filter_eq_some_iff]

theorem activeLink?_eq_none_iff {r : Registry} :
    r.activeLink? = none ↔ ∀ l, r.slot = some l → ¬r.isLive l := by
  simp only [activeLink?, Option.filter_eq_none_iff]

theorem activeLink?_congr {r s : Registry} (slot : s.slot = r.slot)
    (live : ∀ l, r.slot = some l → s.isLive l = r.isLive l) : s.activeLink? = r.activeLink? := by
  rw [activeLink?, activeLink?, slot]
  cases hs : r.slot with
  | none => rfl
  | some l => simp only [Option.filter_some, live l hs]

/-! ## Steps -/

/-- What one step does. A call steps by the phase it is in, a reader by what it is about to do. -/
inductive Step : Action → Registry → Registry → Prop where
  | start (r : Registry) (kind : CallKind) : Step (.start kind) r (r.start kind)
  /-- A call to connect finds that the link in the slot goes on. -/
  | reuse {r : Registry} {c : CallId} {l : LinkId} (call : r.calls[c]? = some ⟨.connect, .queued⟩)
      (turn : r.queue.head? = some c) (active : r.activeLink? = some l) :
      Step (.call c) r (r.setPhase c (.done none)).release
  /-- A call to connect is going to open a link. -/
  | begin {r : Registry} {c : CallId} (call : r.calls[c]? = some ⟨.connect, .queued⟩)
      (turn : r.queue.head? = some c) (inactive : r.activeLink? = none) :
      Step (.call c) r (r.setPhase c .starting)
  /-- A call to close finds nothing to close. -/
  | skip {r : Registry} {c : CallId} (call : r.calls[c]? = some ⟨.close, .queued⟩)
      (turn : r.queue.head? = some c) (vacant : r.slot = none) :
      Step (.call c) r (r.setPhase c (.done none)).release
  /-- A call to close takes the link out of the slot and tells its reader to stop. -/
  | take {r : Registry} {c : CallId} {l : LinkId} (call : r.calls[c]? = some ⟨.close, .queued⟩)
      (turn : r.queue.head? = some c) (occupied : r.slot = some l) :
      Step (.call c) r
        { (r.updateLink l fun link => { link with aborted := true }).setPhase c (.joining l) with
          slot := none
          queue := r.queue.tail }
  | report {r : Registry} {c : CallId} {kind : CallKind}
      (call : r.calls[c]? = some ⟨kind, .starting⟩) :
      Step (.call c) r { r.setPhase c .opening with state := .connecting }
  | refused {r : Registry} {c : CallId} {kind : CallKind}
      (call : r.calls[c]? = some ⟨kind, .opening⟩) (gate : r.gateOpen = true)
      (refusing : r.refusing = true) :
      Step (.call c) r (r.setPhase c (.refused ⟨r.url, "connection refused"⟩))
  | opened {r : Registry} {c : CallId} {kind : CallKind}
      (call : r.calls[c]? = some ⟨kind, .opening⟩) (gate : r.gateOpen = true)
      (accepting : r.refusing = false) :
      Step (.call c) r
        { r.setPhase c (.opened r.links.length) with
          links := r.links ++ [{}]
          current := some r.links.length }
  | publish {r : Registry} {c : CallId} {kind : CallKind} {l : LinkId}
      (call : r.calls[c]? = some ⟨kind, .opened l⟩) : Step (.call c) r (r.publish c l)
  /-- A call to connect returns with an error. -/
  | fail {r : Registry} {c : CallId} {kind : CallKind} {e : ConnectError}
      (call : r.calls[c]? = some ⟨kind, .refused e⟩) :
      Step (.call c) r
        { r.setPhase c (.done (some e)) with state := .closed, queue := r.queue.tail }
  /-- A call to close sees that the reader it waited for has finished. -/
  | join {r : Registry} {c : CallId} {kind : CallKind} {l : LinkId}
      (call : r.calls[c]? = some ⟨kind, .joining l⟩) (ended : r.reader? l = some .finished) :
      Step (.call c) r (r.setPhase c .joined)
  /-- A call to close reports the end and returns. -/
  | closed {r : Registry} {c : CallId} {kind : CallKind}
      (call : r.calls[c]? = some ⟨kind, .joined⟩) :
      Step (.call c) r { r.setPhase c (.done none) with state := .closed }
  /-- A reader takes the next message. -/
  | receive {r : Registry} {l : LinkId} {link : Link} {message : String} {rest : List String}
      (found : r.links[l]? = some link) (receiving : link.reader = .receiving)
      (inbox : link.inbox = message :: rest) :
      Step (.read l) r (r.updateLink l fun link =>
        { link with taken := link.taken + 1, reader := Registry.receive message })
  /-- A reader finds that there will be no more messages. -/
  | exhaust {r : Registry} {l : LinkId} {link : Link} (found : r.links[l]? = some link)
      (receiving : link.reader = .receiving) (empty : link.inbox = [])
      (noSender : r.hasSender l = false) :
      Step (.read l) r (r.updateLink l fun link => { link with reader := .ending })
  | dispatch {r : Registry} {l : LinkId} {link : Link} {e : Event}
      (found : r.links[l]? = some link) (dispatching : link.reader = .dispatching e) :
      Step (.read l) r (r.updateLink l fun link =>
        { link with
          reader := .receiving
          deliveries := link.deliveries ++ [r.callbacks.deliver e] })
  /-- A reader reports the end of its link and finishes. -/
  | finish {r : Registry} {l : LinkId} {link : Link} (found : r.links[l]? = some link)
      (ending : link.reader = .ending) :
      Step (.read l) r
        { r.updateLink l fun link => { link with reader := .finished } with state := .closed }
  | cancel {r : Registry} {l : LinkId} {link : Link} (found : r.links[l]? = some link)
      (aborted : link.aborted = true) (running : link.isRunning = true) :
      Step (.cancel l) r (r.updateLink l fun link => { link with reader := .finished })
  | push {r : Registry} {l : LinkId} (message : String) (current : r.current = some l) :
      Step (.push message) r
        { r with
          waiting := r.waiting ++ [⟨r.nextPush, message, l⟩]
          nextPush := r.nextPush + 1 }
  /-- A message is pushed while there is no link to push to. -/
  | miss {r : Registry} (message : String) (current : r.current = none) :
      Step (.push message) r { r with lost := r.nextPush :: r.lost, nextPush := r.nextPush + 1 }
  | accept {r : Registry} {p : Push} {link : Link} (waiting : p ∈ r.waiting)
      (found : r.links[p.link]? = some link) (unfinished : link.reader ≠ .finished)
      (room : link.inbox.length < r.capacity) : Step (.send p.id) r (r.accept p)
  | lose {r : Registry} {p : Push} {link : Link} (waiting : p ∈ r.waiting)
      (found : r.links[p.link]? = some link) (finished : link.reader = .finished) :
      Step (.send p.id) r (r.lose p)
  | disconnect (r : Registry) : Step .disconnect r { r with current := none }
  | refuse (r : Registry) (on : Bool) : Step (.refuse on) r { r with refusing := on }
  | gate (r : Registry) (on : Bool) : Step (.gate on) r { r with gateOpen := on }
  | draw (r : Registry) (name : String) (callback : Callback) :
      Step (.draw name callback) r { r with callbacks := (r.callbacks.draw name callback).2 }
  | store {r : Registry} {handle : Handle} {callbacks : Callbacks}
      (stored : r.callbacks.store? handle = some callbacks) :
      Step (.store handle) r { r with callbacks }
  | remove (r : Registry) (name : String) :
      Step (.remove name) r { r with callbacks := (r.callbacks.remove name).2 }
  | unsubscribe (r : Registry) (handle : Handle) :
      Step (.unsubscribe handle) r { r with callbacks := (r.callbacks.unsubscribe handle).2 }

theorem step_of_callStep? {r s : Registry} {c : CallId} (h : r.callStep? c = some s) :
    Step (.call c) r s := by
  simp only [callStep?, Option.bind_eq_bind, Option.bind_eq_some_iff] at h
  obtain ⟨⟨kind, phase⟩, hc, h⟩ := h
  cases phase with
  | queued =>
    simp only [Option.ite_none_right_eq_some] at h
    obtain ⟨turn, h⟩ := h
    cases kind with
    | connect =>
      cases h
      unfold beginConnect
      cases active : r.activeLink? with
      | some l => exact .reuse hc turn active
      | none => exact .begin hc turn active
    | close =>
      cases h
      unfold beginClose
      split
      · rename_i vacant
        exact .skip hc turn vacant
      · rename_i l occupied
        exact .take hc turn occupied
  | starting => cases h; exact .report hc
  | opening =>
    simp only [Option.ite_none_right_eq_some] at h
    obtain ⟨gate, h⟩ := h
    cases h
    unfold openLink
    split
    · rename_i refusing
      exact .refused hc gate refusing
    · rename_i accepting
      exact .opened hc gate (Bool.eq_false_iff.2 accepting)
  | opened l => cases h; exact .publish hc
  | refused e => cases h; exact .fail hc
  | joining l =>
    simp only [Option.ite_none_right_eq_some] at h
    obtain ⟨ended, h⟩ := h
    cases h
    exact .join hc ended
  | joined => cases h; exact .closed hc
  | done failure => cases h

theorem step_of_readStep? {r s : Registry} {l : LinkId} (h : r.readStep? l = some s) :
    Step (.read l) r s := by
  simp only [readStep?, Option.bind_eq_bind, Option.bind_eq_some_iff] at h
  obtain ⟨link, found, h⟩ := h
  split at h
  · rename_i receiving
    split at h
    · rename_i message rest inbox
      cases h
      exact .receive found receiving inbox
    · rename_i empty
      split at h
      · cases h
      · rename_i noSender
        cases h
        exact .exhaust found receiving empty (by simpa using noSender)
  · rename_i e dispatching
    cases h
    exact .dispatch found dispatching
  · rename_i ending
    cases h
    exact .finish found ending
  · cases h
  · cases h

theorem step_of_cancel? {r s : Registry} {l : LinkId} (h : r.cancel? l = some s) :
    Step (.cancel l) r s := by
  simp only [cancel?, Option.bind_eq_bind, Option.bind_eq_some_iff,
    Option.ite_none_right_eq_some] at h
  obtain ⟨link, found, stopped, h⟩ := h
  cases h
  rw [Bool.and_eq_true] at stopped
  exact .cancel found stopped.1 stopped.2

theorem step_of_sendStep? {r s : Registry} {id : PushId} (h : r.sendStep? id = some s) :
    Step (.send id) r s := by
  simp only [sendStep?, Option.bind_eq_bind, Option.bind_eq_some_iff] at h
  obtain ⟨p, hp, link, found, h⟩ := h
  obtain rfl : p.id = id := by simpa using List.find?_some hp
  have waiting := List.mem_of_find?_eq_some hp
  split at h
  · rename_i finished
    cases h
    exact .lose waiting found finished
  · rename_i unfinished
    split at h
    · rename_i room
      cases h
      exact .accept waiting found unfinished room
    · cases h

theorem step_of_act? {r s : Registry} {a : Action} (h : r.act? a = some s) : Step a r s := by
  cases a with
  | start kind => cases h; exact .start r kind
  | call c => exact step_of_callStep? h
  | read l => exact step_of_readStep? h
  | cancel l => exact step_of_cancel? h
  | push message =>
    cases h
    unfold push
    split
    · rename_i l current
      exact .push message current
    · rename_i current
      exact .miss message current
  | send id => exact step_of_sendStep? h
  | disconnect => cases h; exact .disconnect r
  | refuse on => cases h; exact .refuse r on
  | gate on => cases h; exact .gate r on
  | draw name callback => cases h; exact .draw r name callback
  | store handle =>
    obtain ⟨callbacks, stored, rfl⟩ := Option.map_eq_some_iff.1 h
    exact .store stored
  | remove name => cases h; exact .remove r name
  | unsubscribe handle => cases h; exact .unsubscribe r handle

/-! ## Runs -/

theorem run?_cons {r s t : Registry} {a : Action} {after : List Action} (h : r.act? a = some s)
    (k : s.run? after = some t) : r.run? (a :: after) = some t := by
  unfold run? at *
  rw [List.foldlM_cons, h]
  exact k

theorem run?_append_eq (r : Registry) (before after : List Action) :
    r.run? (before ++ after) = (r.run? before).bind (·.run? after) := by
  rw [run?, List.foldlM_append]
  rfl

theorem run?_append {r t : Registry} {before after : List Action}
    (h : r.run? (before ++ after) = some t) :
    ∃ s, r.run? before = some s ∧ s.run? after = some t := by
  rw [run?_append_eq] at h
  exact Option.bind_eq_some_iff.1 h

theorem run?_concat {r t : Registry} {before : List Action} {a : Action}
    (h : r.run? (before ++ [a]) = some t) :
    ∃ s, r.run? before = some s ∧ s.act? a = some t := by
  obtain ⟨s, hs, h⟩ := run?_append h
  exact ⟨s, hs, by simpa [run?] using h⟩

/-- An action of a run is its last one or one of those before. -/
theorem concat_eq_append_cons {before first after : List Action} {a b : Action}
    (h : before ++ [a] = first ++ b :: after) :
    (before = first ∧ a = b ∧ after = []) ∨
      ∃ rest, after = rest ++ [a] ∧ before = first ++ b :: rest := by
  rcases List.eq_nil_or_concat after with rfl | ⟨rest, last, rfl⟩
  · obtain ⟨rfl, e⟩ := List.append_inj' h rfl
    exact .inl ⟨rfl, List.singleton_inj.1 e, rfl⟩
  · rw [List.concat_eq_append, ← List.cons_append, ← List.append_assoc] at h
    obtain ⟨same, e⟩ := List.append_inj' h rfl
    obtain rfl := List.singleton_inj.1 e
    exact .inr ⟨rest, List.concat_eq_append, same⟩

/-- What holds at the start of a run and is kept by every step of it holds at its end. -/
theorem run?_induction {r s : Registry} {actions : List Action}
    {P : List Action → Registry → Prop} (init : P [] r)
    (step : ∀ {before a mid next}, r.run? before = some mid → P before mid → Step a mid next →
      P (before ++ [a]) next)
    (h : r.run? actions = some s) : P actions s := by
  induction actions using List.reverseRecOn generalizing s with
  | nil => cases h; exact init
  | append_singleton before a ih =>
    obtain ⟨mid, hm, ha⟩ := run?_concat h
    exact step hm (ih hm) (step_of_act? ha)

end Registry

end GardenAdmin
