import GardenAdmin.Proofs.Events.Dispatch
import GardenAdmin.Proofs.Events.Registrations

/-!
# The delivery law

The whole history of a run is related to what the callbacks were called with: which pushed messages
a link accepted (`Registry.Accepted`), when each of its events was handed over
(`Registry.dispatched_of_run?`), and which callbacks were called with it.
-/

namespace GardenAdmin

def Action.pushes? : Action → Option String
  | .push message => some message
  | _ => none

/-- The messages of a history in the order they were pushed. A push is numbered by its place. -/
def pushes (history : List Action) : List String := history.filterMap Action.pushes?

namespace Registry

/-- No message reached a link before one that was pushed earlier and bound for the same link. -/
def SentInTurn (r : Registry) (history : List Action) : Prop :=
  ∀ {before after : List Action} {p : Push} {mid : Registry},
    history = before ++ .send p.id :: after → r.run? before = some mid → p ∈ mid.waiting →
    ∀ q ∈ mid.waiting, q.link = p.link → p.id ≤ q.id

/-- The messages that a link accepted. -/
def accepted (r : Registry) (l : LinkId) : List String :=
  ((r.links[l]?).map (·.accepted)).getD []

/-- The link accepted the pushes of those numbers. -/
structure Accepted (history : List Action) (l : LinkId) (ids : List PushId) (r : Registry) :
    Prop where
  count : r.nextPush = (pushes history).length
  waiting : ∀ q ∈ r.waiting, (pushes history)[q.id]? = some q.message
  accepted : (r.accepted l).map some = ids.map ((pushes history)[·]?)
  nodup : ids.Nodup
  apart : ∀ q ∈ r.waiting, q.id ∉ ids

/-- They are in the order they were pushed, and later ones are still on their way. -/
def InTurn (l : LinkId) (ids : List PushId) (r : Registry) : Prop :=
  ids.Pairwise (· < ·) ∧ ∀ i ∈ ids, ∀ q ∈ r.waiting, q.link = l → i < q.id

variable {r s : Registry} {a : Action} {l : LinkId} {history : List Action} {ids : List PushId}

theorem sentInTurn_nil : r.SentInTurn [] := by
  intro before _ _ _ e
  cases before <;> cases e

theorem sentInTurn_cons : r.SentInTurn (a :: history) ↔
    (∀ p ∈ r.waiting, a = .send p.id → ∀ q ∈ r.waiting, q.link = p.link → p.id ≤ q.id) ∧
      ∀ s ∈ r.act? a, s.SentInTurn history := by
  constructor
  · intro h
    refine ⟨fun p hp e => @h [] history p r (by rw [e]; rfl) rfl hp, ?_⟩
    rintro s act before after p mid rfl run hp
    exact @h (a :: before) after p mid rfl (run?_cons act run) hp
  · rintro ⟨first, further⟩ before after p mid e run hp
    cases before with
    | nil =>
      cases e
      cases run
      exact first p hp rfl
    | cons b before =>
      cases e
      rw [run?, List.foldlM_cons] at run
      obtain ⟨s, act, run⟩ := Option.bind_eq_some_iff.1 run
      exact further s act rfl run hp

instance decidableSentInTurn :
    (history : List Action) → (r : Registry) → Decidable (r.SentInTurn history)
  | [], _ => isTrue sentInTurn_nil
  | _ :: history, _ =>
    have := decidableSentInTurn history
    decidable_of_iff _ sentInTurn_cons.symm

theorem accepted_updateLink_of_eq (r : Registry) (l : LinkId) {f : Link → Link}
    (h : ∀ link, (f link).accepted = link.accepted) (k : LinkId) :
    (r.updateLink l f).accepted k = r.accepted k :=
  congrArg (·.getD []) (map_updateLink_of_eq r l h k)

theorem accepted_of_opened (links : s.links = r.links ++ [({} : Link)]) (l : LinkId) :
    s.accepted l = r.accepted l := by
  rw [accepted, accepted, links, getElem?_concat]
  split
  · next e =>
    rw [List.getElem?_eq_none (Nat.le_of_eq e)]
    rfl
  · rfl

theorem accepted_accept {p : Push} {link : Link} (found : r.links[p.link]? = some link)
    (l : LinkId) :
    (r.accept p).accepted l = if p.link = l then r.accepted l ++ [p.message] else r.accepted l := by
  have links := links_updateLink found
    (fun link => { link with accepted := link.accepted ++ [p.message] }) l
  show (((r.updateLink p.link _).links[l]?).map (·.accepted)).getD [] = _
  rw [links]
  split
  · next e =>
    subst e
    rw [accepted, found]
    rfl
  · rfl

namespace Accepted

theorem lt_length (h : r.Accepted history l ids) {i : PushId} (hi : i ∈ ids) :
    i < (pushes history).length := by
  have : (pushes history)[i]? ∈ ids.map ((pushes history)[·]?) := List.mem_map.2 ⟨i, hi, rfl⟩
  rw [← h.accepted] at this
  obtain ⟨message, -, e⟩ := List.mem_map.1 this
  exact (List.getElem?_eq_some_iff.1 e.symm).1

/-- Nothing is pushed, and no message that this link would accept arrives. -/
theorem keep (h : r.Accepted history l ids) (quiet : a.pushes? = none)
    (count : s.nextPush = r.nextPush) (fewer : ∀ q ∈ s.waiting, q ∈ r.waiting)
    (same : s.accepted l = r.accepted l) : s.Accepted (history ++ [a]) l ids := by
  have pushed : pushes (history ++ [a]) = pushes history := by simp [pushes, quiet]
  refine ⟨?_, ?_, ?_, h.nodup, ?_⟩
  · rw [count, pushed]; exact h.count
  · rw [pushed]; exact fun q hq => h.waiting q (fewer q hq)
  · rw [same, pushed]; exact h.accepted
  · exact fun q hq => h.apart q (fewer q hq)

/-- A message is pushed. -/
theorem push (h : r.Accepted history l ids) (message : String)
    (count : s.nextPush = r.nextPush + 1)
    (waiting : ∀ q ∈ s.waiting, q ∈ r.waiting ∨ q.id = r.nextPush ∧ q.message = message)
    (same : s.accepted l = r.accepted l) : s.Accepted (history ++ [.push message]) l ids := by
  have pushed : pushes (history ++ [.push message]) = pushes history ++ [message] := by
    simp [pushes, Action.pushes?]
  refine ⟨?_, ?_, ?_, h.nodup, ?_⟩
  · rw [count, pushed, List.length_append, h.count]
    rfl
  · intro q hq
    rw [pushed]
    rcases waiting q hq with hq | ⟨id, rfl⟩
    · have old := h.waiting q hq
      rw [List.getElem?_append_left (List.getElem?_eq_some_iff.1 old).1, old]
    · rw [id, h.count, List.getElem?_append_right (Nat.le_refl _)]
      simp
  · rw [same, h.accepted, pushed]
    refine List.map_congr_left fun i hi => ?_
    rw [List.getElem?_append_left (h.lt_length hi)]
  · intro q hq
    rcases waiting q hq with hq | ⟨id, -⟩
    · exact h.apart q hq
    · intro hi
      have lt := h.lt_length hi
      rw [id, h.count] at lt
      exact Nat.lt_irrefl _ lt

/-- A message that was on its way to this link arrives. -/
theorem accept (h : r.Accepted history l ids) {p : Push} {link : Link} (hp : p ∈ r.waiting)
    (found : r.links[p.link]? = some link) (bound : p.link = l) :
    (r.accept p).Accepted (history ++ [.send p.id]) l (ids ++ [p.id]) := by
  have pushed : pushes (history ++ [.send p.id]) = pushes history := by
    simp [pushes, Action.pushes?]
  have left {q : Push} (hq : q ∈ (r.accept p).waiting) : q ∈ r.waiting ∧ q.id ≠ p.id := by
    obtain ⟨hq, ne⟩ := List.mem_filter.1 hq
    exact ⟨hq, of_decide_eq_true ne⟩
  refine ⟨?_, ?_, ?_, ?_, ?_⟩
  · rw [pushed]; exact h.count
  · rw [pushed]; exact fun q hq => h.waiting q (left hq).1
  · rw [accepted_accept found, if_pos bound, pushed, List.map_append, List.map_append, h.accepted]
    simp only [List.map_cons, List.map_nil, h.waiting p hp]
  · refine List.nodup_append.2 ⟨h.nodup, List.pairwise_singleton .., ?_⟩
    rintro i hi _ hj rfl
    exact h.apart p hp (List.mem_singleton.1 hj ▸ hi)
  · intro q hq hi
    rcases List.mem_append.1 hi with hi | hi
    · exact h.apart q (left hq).1 hi
    · exact (left hq).2 (List.mem_singleton.1 hi)

theorem step (h : r.Accepted history l ids) (step : Step a r s) :
    ∃ ids', s.Accepted (history ++ [a]) l ids' ∧
      (r.InTurn l ids → (∀ {p}, a = .send p.id → p ∈ r.waiting →
        ∀ q ∈ r.waiting, q.link = p.link → p.id ≤ q.id) → s.InTurn l ids') := by
  have old (quiet : a.pushes? = none) (count : s.nextPush = r.nextPush)
      (fewer : ∀ q ∈ s.waiting, q ∈ r.waiting) (same : s.accepted l = r.accepted l) :
      ∃ ids', s.Accepted (history ++ [a]) l ids' ∧
        (r.InTurn l ids → (∀ {p}, a = .send p.id → p ∈ r.waiting →
          ∀ q ∈ r.waiting, q.link = p.link → p.id ≤ q.id) → s.InTurn l ids') :=
    ⟨ids, h.keep quiet count fewer same,
      fun turn _ => ⟨turn.1, fun i hi q hq => turn.2 i hi q (fewer q hq)⟩⟩
  have fewer {id : PushId} (q : Push) (hq : q ∈ r.waiting.filter (·.id ≠ id)) : q ∈ r.waiting :=
    (List.mem_filter.1 hq).1
  cases step with
  | push message target =>
    refine ⟨ids, h.push message rfl (fun q hq => ?_) rfl, fun turn _ => ⟨turn.1, ?_⟩⟩
    · exact (List.mem_append.1 hq).imp_right fun hq => by
        rw [List.mem_singleton.1 hq]
        exact ⟨rfl, rfl⟩
    · intro i hi q hq bound
      rcases List.mem_append.1 hq with hq | hq
      · exact turn.2 i hi q hq bound
      · rw [List.mem_singleton.1 hq]
        exact h.count ▸ h.lt_length hi
  | miss message =>
    exact ⟨ids, h.push message rfl (fun q hq => .inl hq) rfl, fun turn _ => turn⟩
  | @accept _ p link hp found =>
    by_cases bound : p.link = l
    · refine ⟨ids ++ [p.id], h.accept hp found bound, fun turn first => ⟨?_, ?_⟩⟩
      · refine List.pairwise_append.2 ⟨turn.1, List.pairwise_singleton .., fun i hi j hj => ?_⟩
        rw [List.mem_singleton.1 hj]
        exact turn.2 i hi p hp bound
      · intro i hi q hq bound'
        rcases List.mem_append.1 hi with hi | hi
        · exact turn.2 i hi q (fewer q hq) bound'
        · rw [List.mem_singleton.1 hi]
          have ne : q.id ≠ p.id := of_decide_eq_true (List.mem_filter.1 hq).2
          have le := first rfl hp q (fewer q hq) (bound'.trans bound.symm)
          exact Nat.lt_of_le_of_ne le ne.symm
    · exact old rfl rfl fewer ((accepted_accept found l).trans (if_neg bound))
  | lose => exact old rfl rfl fewer rfl
  | opened => exact old rfl rfl (fun _ hq => hq) (accepted_of_opened rfl l)
  | take | publish =>
    exact old rfl rfl (fun _ hq => hq) (accepted_updateLink_of_eq r _ (by intro; rfl) l)
  | receive | exhaust | dispatch | finish | cancel =>
    exact old rfl rfl (fun _ hq => hq) (accepted_updateLink_of_eq r _ (by intro; rfl) l)
  | start | reuse | begin | skip | report | refused => exact old rfl rfl (fun _ hq => hq) rfl
  | fail | join | closed | disconnect | refuse | gate => exact old rfl rfl (fun _ hq => hq) rfl
  | draw | store | remove | unsubscribe => exact old rfl rfl (fun _ hq => hq) rfl

end Accepted

theorem accepted_of_run? {url : String} {capacity : Nat} {actions : List Action}
    (run : (fresh url capacity).run? actions = some s) (l : LinkId) :
    ∃ ids, s.Accepted actions l ids ∧
      ((fresh url capacity).SentInTurn actions → s.InTurn l ids) := by
  refine run?_induction (P := fun history s => ∃ ids, s.Accepted history l ids ∧
    ((fresh url capacity).SentInTurn history → s.InTurn l ids)) ?_ ?_ run
  · exact ⟨[], ⟨rfl, nofun, rfl, .nil, nofun⟩, fun _ => ⟨.nil, nofun⟩⟩
  · rintro before a mid next hm ⟨ids, h, turn⟩ step
    obtain ⟨ids', h', turn'⟩ := h.step step
    refine ⟨ids', h', fun inTurn => turn' (turn ?_) ?_⟩
    · rintro first after p mid' rfl hm' hp
      exact inTurn (by rw [List.append_assoc]; rfl) hm' hp
    · rintro p rfl hp
      exact inTurn rfl hm hp

/-! ## Who is called -/

/-- An event is handed over in a step of the reader that took it. -/
theorem LinkStep.deliveries {link next : Link} (step : LinkStep r l a link next) :
    next.deliveries = link.deliveries ∨ a = .read l ∧
      ∃ e, link.reader = .dispatching e ∧
        next.deliveries = link.deliveries ++ [r.callbacks.deliver e] := by
  cases step with
  | dispatch dispatching => exact .inr ⟨rfl, _, dispatching, rfl⟩
  | other | abort | publish | receive | exhaust | finish | cancel | accept => exact .inl rfl

/-- At some moment of the run the reader of the link handed over its event of number `k`, to the
callbacks stored at that moment. -/
def Dispatched (r : Registry) (history : List Action) (l : LinkId) (k : Nat) (d : Delivery) :
    Prop :=
  ∃ before after mid link, history = before ++ .read l :: after ∧ r.run? before = some mid ∧
    mid.links[l]? = some link ∧ link.reader = .dispatching d.event ∧ link.deliveries.length = k ∧
    d = mid.callbacks.deliver d.event

theorem Dispatched.concat {k : Nat} {d : Delivery} (h : r.Dispatched history l k d) (a : Action) :
    r.Dispatched (history ++ [a]) l k d := by
  obtain ⟨before, after, mid, link, rfl, rest⟩ := h
  exact ⟨before, after ++ [a], mid, link, by simp, rest⟩

theorem dispatched_of_run? {url : String} {capacity : Nat} {actions : List Action}
    (run : (fresh url capacity).run? actions = some s) {link : Link} {k : Nat} {d : Delivery}
    (found : s.links[l]? = some link) (delivered : link.deliveries[k]? = some d) :
    (fresh url capacity).Dispatched actions l k d := by
  revert link
  refine run?_induction (P := fun history s => ∀ {link : Link}, s.links[l]? = some link →
    link.deliveries[k]? = some d → (fresh url capacity).Dispatched history l k d) ?_ ?_ run
  · intro link found
    cases found
  · intro before a mid next hm ih step link' found delivered
    have order := orderly_of_run? (.fresh url capacity) hm
    rcases links_of_step order step found with ⟨link, old, linkStep⟩ | ⟨-, rfl⟩
    · rcases linkStep.deliveries with same | ⟨rfl, e, dispatching, grown⟩
      · exact (ih old (same ▸ delivered)).concat a
      · rw [grown, getElem?_concat] at delivered
        split at delivered
        · next count =>
          cases delivered
          exact ⟨before, [], mid, link, rfl, hm, old, dispatching, count, rfl⟩
        · exact (ih old delivered).concat _
    · cases delivered

/-- What comes out of a link. The events its reader handed over are the decodable ones among the
messages the link accepted, in that order and up to some point; the accepted messages are messages
that were pushed, each once, and in the order of the pushes if they arrived in that order. A reader
that nobody told to stop has handed over all of them when it comes to rest after the last sender has
gone, and its own steps lead there. Each event called the registrations in force at the moment it
was handed over, each once, in the order of the bytes of their names. An undecodable message changes
nothing. -/
theorem delivery_of_run? {url : String} {capacity : Nat} {actions : List Action}
    (run : (fresh url capacity).run? actions = some s) {link : Link}
    (found : s.links[l]? = some link) :
    link.deliveries.map (·.event) <+: decoded link.accepted ∧
    (∃ ids : List PushId, ids.Nodup ∧ link.accepted.map some = ids.map ((pushes actions)[·]?) ∧
      ((fresh url capacity).SentInTurn actions → ids.Pairwise (· < ·))) ∧
    (link.reader ≠ .unstarted → link.aborted = false → s.hasSender l = false →
      s.readStep? l = none → link.deliveries.map (·.event) = decoded link.accepted) ∧
    (link.reader ≠ .unstarted → link.aborted = false → s.hasSender l = false →
      ∃ n t last, s.run? (List.replicate n (.read l)) = some t ∧ t.links[l]? = some last ∧
        last.reader = .finished ∧ last.accepted = link.accepted ∧
        last.deliveries.map (·.event) = decoded link.accepted) ∧
    (∀ k d, link.deliveries[k]? = some d →
      ∃ before after mid taker, actions = before ++ .read l :: after ∧
        (fresh url capacity).run? before = some mid ∧ mid.links[l]? = some taker ∧
        taker.reader = .dispatching d.event ∧ taker.deliveries.length = k ∧
        (∀ name reg outcome, (name, reg, outcome) ∈ d.calls ↔
          Registered before name reg ∧ outcome = reg.callback.outcome) ∧
        d.calls.Pairwise fun a b => Text.utf8 a.1 < Text.utf8 b.1) ∧
    (∀ message rest, link.reader = .receiving → link.inbox = message :: rest →
      (∀ e, Event.decode message ≠ .ok e) →
      s.act? (.read l) =
        some (s.updateLink l fun link => { link with taken := link.taken + 1 })) := by
  have inOrder := (inOrder_of_run? run).links found
  refine ⟨inOrder.prefix_decoded, ?_, ?_, ?_, ?_, ?_⟩
  · obtain ⟨ids, h, turn⟩ := accepted_of_run? run l
    refine ⟨ids, h.nodup, ?_, fun inTurn => (turn inTurn).1⟩
    have := h.accepted
    rw [accepted, found] at this
    exact this
  · intro started unaborted noSender rest
    have finished := finished_of_readStep? found started noSender rest
    exact inOrder.deliveries_of_finished finished unaborted
  · intro started unaborted noSender
    have orderly := orderly_of_run? (.fresh url capacity) run
    obtain ⟨n, t, last, reads, there, finished, accepted, aborted⟩ :=
      exists_reads_finished orderly found started noSender
    have all : (fresh url capacity).run? (actions ++ List.replicate n (.read l)) = some t := by
      rw [run?_append_eq, run]
      exact reads
    have inOrder' := (inOrder_of_run? all).links there
    refine ⟨n, t, last, reads, there, finished, accepted, ?_⟩
    rw [← accepted]
    exact inOrder'.deliveries_of_finished finished (aborted.trans unaborted)
  · intro k d delivered
    obtain ⟨before, after, mid, taker, e, hm, old, dispatching, count, calls⟩ :=
      dispatched_of_run? run found delivered
    refine ⟨before, after, mid, taker, e, hm, old, dispatching, count, ?_, ?_⟩
    · intro name reg outcome
      rw [calls, Callbacks.mem_deliver_iff, (Callbacks.follows_of_run? hm).stored]
    · rw [calls]
      exact Callbacks.pairwise_deliver ..
  · intro message rest receiving inbox undecodable
    exact readStep?_of_undecodable found receiving inbox undecodable

/-- The callback of the panel is replaced between two events, and that of the audit panics. -/
def replacing : List Action :=
  [.draw "panel" ⟨"old", .nothing⟩, .store ⟨"panel", 0⟩, .draw "audit" ⟨"audit", .panic⟩,
    .store ⟨"audit", 1⟩, .start .connect, .call 0, .call 0, .call 0, .call 0,
    .push "\x7b\"name\": \"GARDEN_SYNC\"\x7d", .push "hello", .send 0, .send 1, .read 0, .read 0,
    .draw "panel" ⟨"new", .nothing⟩, .store ⟨"panel", 2⟩,
    .push "\x7b\"name\": \"GARDEN_REMOVED\"\x7d", .disconnect, .send 2,
    .read 0, .read 0, .read 0, .read 0, .read 0]

/-- Before the last five reads an event was handed over and an undecodable message comes next; after
them the reader is at rest. -/
theorem delivery_of_run?_replaced :
    (∃ s link, (fresh "ws://garden" 4).run? (replacing.take 20) = some s ∧ s.links[0]? = some link ∧
      s.act? (.read 0) =
        some (s.updateLink 0 fun link => { link with taken := link.taken + 1 }) ∧
      ∃ n t last, s.run? (List.replicate n (.read 0)) = some t ∧ t.links[0]? = some last ∧
        last.reader = .finished ∧ last.accepted = link.accepted ∧
        last.deliveries.map (·.event) = decoded link.accepted) ∧
    ∃ s link, (fresh "ws://garden" 4).run? replacing = some s ∧ s.links[0]? = some link ∧
      link.accepted = pushes replacing ∧
      (∃ ids : List PushId, ids.Pairwise (· < ·) ∧
        link.accepted.map some = ids.map ((pushes replacing)[·]?)) ∧
      link.deliveries.map (·.event) = decoded link.accepted ∧
      link.deliveries.map (·.calls) =
        [[("audit", ⟨1, "audit", .panic⟩, .panicked), ("panel", ⟨0, "old", .nothing⟩, .returned)],
          [("audit", ⟨1, "audit", .panic⟩, .panicked),
            ("panel", ⟨2, "new", .nothing⟩, .returned)]] ∧
      ∃ before after, replacing = before ++ .read 0 :: after ∧
        Registered before "audit" ⟨1, "audit", .panic⟩ ∧
        Registered before "panel" ⟨2, "new", .nothing⟩ ∧
        ¬Registered before "panel" ⟨0, "old", .nothing⟩ := by
  constructor
  · obtain ⟨s, run, link, found, started, unaborted, gone, receiving, inbox⟩ :
        ∃ s ∈ (fresh "ws://garden" 4).run? (replacing.take 20), ∃ link ∈ s.links[0]?,
          link.reader ≠ .unstarted ∧ link.aborted = false ∧ s.hasSender 0 = false ∧
          link.reader = .receiving ∧
          link.inbox = ["hello", "\x7b\"name\": \"GARDEN_REMOVED\"\x7d"] := by
      decide +kernel
    have undecodable : (Event.decode "hello").toOption = none := by decide +kernel
    obtain ⟨-, -, -, comes, -, drops⟩ := delivery_of_run? run found
    refine ⟨s, link, run, found, drops _ _ receiving inbox fun e ok => ?_, ?_⟩
    · rw [ok] at undecodable
      cases undecodable
    · exact comes started unaborted gone
  · obtain ⟨s, run, link, found, started, unaborted, gone, rest, all, calls⟩ :
        ∃ s ∈ (fresh "ws://garden" 4).run? replacing, ∃ link ∈ s.links[0]?,
          link.reader ≠ .unstarted ∧ link.aborted = false ∧ s.hasSender 0 = false ∧
          s.readStep? 0 = none ∧ link.accepted = pushes replacing ∧
          link.deliveries.map (·.calls) =
            [[("audit", ⟨1, "audit", .panic⟩, .panicked),
                ("panel", ⟨0, "old", .nothing⟩, .returned)],
              [("audit", ⟨1, "audit", .panic⟩, .panicked),
                ("panel", ⟨2, "new", .nothing⟩, .returned)]] := by
      decide +kernel
    obtain ⟨d, delivered, second⟩ : ∃ d, link.deliveries[1]? = some d ∧ d.calls =
        [("audit", ⟨1, "audit", .panic⟩, .panicked), ("panel", ⟨2, "new", .nothing⟩, .returned)] := by
      rw [← Option.map_eq_some_iff, ← List.getElem?_map, calls]
      rfl
    have inTurn : (fresh "ws://garden" 4).SentInTurn replacing := by decide +kernel
    obtain ⟨-, ⟨ids, -, accepted, turn⟩, complete, -, dispatches, -⟩ := delivery_of_run? run found
    obtain ⟨before, after, -, -, e, -, -, -, -, registered, -⟩ := dispatches 1 d delivered
    rw [second] at registered
    refine ⟨s, link, run, found, all, ⟨ids, turn inTurn, accepted⟩,
      complete started unaborted gone rest, calls, before, after, e, ?_, ?_, fun old => ?_⟩
    · exact ((registered _ _ _).1 (.head _)).1
    · exact ((registered _ _ _).1 (.tail _ (.head _))).1
    · exact absurd ((registered _ _ _).2 ⟨old, rfl⟩) (by simp)

end Registry

end GardenAdmin
