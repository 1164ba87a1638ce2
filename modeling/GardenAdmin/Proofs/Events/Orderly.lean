import GardenAdmin.Proofs.Events.Run

/-!
# Calls take turns at the link

`Registry.Orderly` says who may touch the slot and the readers at any moment: one call at a time is
opening a link, it found no reader at work in the slot, and every reader at work is the one in the
slot or one that a call to close waits for. Every step keeps it (`Registry.Orderly.step`), so it
holds after any run of a fresh registry.
-/

namespace GardenAdmin

/-- A call to connect has its turn and is opening a link. -/
def CallPhase.isConnecting : CallPhase → Bool
  | .starting | .opening | .opened _ | .refused _ => true
  | .queued | .joining _ | .joined | .done _ => false

/-- A call to close took a reader out of the slot and has not returned. -/
def CallPhase.isClosing : CallPhase → Bool
  | .joining _ | .joined => true
  | .queued | .starting | .opening | .opened _ | .refused _ | .done _ => false

/-- Calls to connect and calls to close go through phases of their own. -/
def Call.FitsKind (c : Call) : Prop :=
  (c.phase.isConnecting → c.kind = .connect) ∧ (c.phase.isClosing → c.kind = .close)

namespace Registry

/-- Whether the reader of a link was told to stop. -/
def isAborted (r : Registry) (l : LinkId) : Bool := (r.links[l]?).any (·.aborted)

structure Orderly (r : Registry) : Prop where
  fits : ∀ {c : CallId} {call : Call}, r.calls[c]? = some call → call.FitsKind
  /-- A call that is opening a link has the slot locked. -/
  turn : ∀ {c : CallId} {p : CallPhase}, r.phase? c = some p → p.isConnecting →
    r.queue.head? = some c
  /-- While a call is opening a link, no reader in the slot is at work. -/
  idle : ∀ {c : CallId} {p : CallPhase} {l : LinkId}, r.phase? c = some p → p.isConnecting →
    r.slot = some l → r.reader? l = some .finished
  /-- The reader of a link just opened is still to be started. -/
  unread : ∀ {c : CallId} {l : LinkId}, r.phase? c = some (.opened l) →
    r.reader? l = some .unstarted ∧ r.isAborted l = false
  /-- A link whose reader is still to be started is in the hands of the call that opened it. -/
  held : ∀ {l : LinkId}, r.reader? l = some .unstarted → ∃ c, r.phase? c = some (.opened l)
  /-- A reader at work is in the slot, or a call to close waits for it. -/
  owned : ∀ {l : LinkId}, r.isLive l → r.slot = some l ∨ ∃ c, r.phase? c = some (.joining l)
  /-- The reader in the slot was started, and nobody told it to stop. -/
  kept : ∀ {l : LinkId}, r.slot = some l →
    (∃ p, r.reader? l = some p ∧ p ≠ .unstarted) ∧ r.isAborted l = false

/-- An update that tells nobody to stop. -/
theorem isAborted_updateLink_of_eq (r : Registry) (l : LinkId) {f : Link → Link}
    (h : ∀ link, (f link).aborted = link.aborted) (k : LinkId) :
    (r.updateLink l f).isAborted k = r.isAborted k := by
  have := congrArg (·.any id) (map_updateLink_of_eq r l h k)
  rw [Option.any_map, Option.any_map] at this
  exact this

theorem isRunning_receive (message : String) : (receive message).isRunning := by
  unfold receive
  split <;> rfl

theorem receive_ne_unstarted (message : String) : receive message ≠ .unstarted := by
  unfold receive
  split <;> nofun

namespace Orderly

variable {r s : Registry} {c : CallId} {l : LinkId} {call : Call} {link : Link}

theorem fresh (url : String) (capacity : Nat) : (Registry.fresh url capacity).Orderly where
  fits h := by cases h
  turn h := by cases h
  idle h := by cases h
  unread h := by cases h
  held h := by cases h
  owned h := by cases h
  kept h := by cases h

/-- Nothing else about a registry matters. -/
theorem congr (h : r.Orderly) (calls : s.calls = r.calls) (queue : s.queue = r.queue)
    (slot : s.slot = r.slot) (reader : ∀ l, s.reader? l = r.reader? l)
    (aborted : ∀ l, s.isAborted l = r.isAborted l) : s.Orderly := by
  have phase (d : CallId) : s.phase? d = r.phase? d := by rw [phase?, calls, phase?]
  refine ⟨?_, ?_, ?_, ?_, ?_, ?_, ?_⟩
  · simp only [calls]; exact h.fits
  · simp only [phase, queue]; exact h.turn
  · simp only [phase, slot, reader]; exact h.idle
  · simp only [phase, reader, aborted]; exact h.unread
  · simp only [phase, reader]; exact h.held
  · simp only [isLive_eq, phase, slot, reader]; simpa only [isLive_eq] using @h.owned
  · simp only [slot, reader, aborted]; exact h.kept

/-- Only one call is opening a link. -/
theorem eq_of_turn (h : r.Orderly) (turn : r.queue.head? = some c) {d : CallId} {p : CallPhase}
    (hd : r.phase? d = some p) (connecting : p.isConnecting) : c = d :=
  Option.some.inj (turn.symm.trans (h.turn hd connecting))

/-- Where the call that has its turn is not opening a link afterwards, no call is. -/
theorem isConnecting_of_setPhase (h : r.Orderly) (hc : r.calls[c]? = some call)
    (turn : r.queue.head? = some c) {p : CallPhase} (settled : p.isConnecting = false) {d : CallId}
    {q : CallPhase} (hd : (r.setPhase c p).phase? d = some q) : q.isConnecting = false := by
  rw [phase?_setPhase hc] at hd
  split at hd
  · cases hd
    exact settled
  · next ne => exact Bool.eq_false_iff.2 fun connecting => ne (h.eq_of_turn turn hd connecting)

/-- While a call is opening a link there is no active one. -/
theorem activeLink?_eq_none (h : r.Orderly) (hc : r.calls[c]? = some call)
    (connecting : call.phase.isConnecting) : r.activeLink? = none := by
  rw [activeLink?_eq_none_iff]
  intro l slot live
  have ended := h.idle (phase?_of_calls hc) connecting slot
  rw [isLive_eq, ended] at live
  cases live

/-! ## Steps of calls -/

theorem start (h : r.Orderly) (kind : CallKind) : (r.start kind).Orderly := by
  have phase {d p} (hd : (r.start kind).phase? d = some p) : p = .queued ∨ r.phase? d = some p := by
    rw [phase?_start] at hd
    split at hd
    · exact .inl (Option.some.inj hd).symm
    · exact .inr hd
  have kept {d p} (hd : r.phase? d = some p) : (r.start kind).phase? d = some p := by
    have : r.calls.length ≠ d := by
      rintro rfl
      simp [phase?] at hd
    rw [phase?_start, if_neg this]
    exact hd
  refine ⟨?_, ?_, ?_, ?_, ?_, ?_, h.kept⟩
  · intro d call hd
    simp only [Registry.start, getElem?_concat] at hd
    split at hd
    · cases hd
      constructor <;> intro e <;> cases e
    · exact h.fits hd
  · intro d p hd connecting
    rcases phase hd with rfl | hd
    · cases connecting
    · have := h.turn hd connecting
      simp only [Registry.start, List.head?_append, this, Option.some_or]
  · intro d p l hd connecting slot
    rcases phase hd with rfl | hd
    · cases connecting
    · exact h.idle hd connecting slot
  · intro d l hd
    rcases phase hd with hp | hd
    · cases hp
    · exact h.unread hd
  · intro l unstarted
    obtain ⟨d, hd⟩ := h.held unstarted
    exact ⟨d, kept hd⟩
  · intro l live
    rcases h.owned live with slot | ⟨d, hd⟩
    · exact .inl slot
    · exact .inr ⟨d, kept hd⟩

/-- A call goes on to another phase and leaves the slot and the links alone. Whichever call is
opening a link afterwards has the slot locked. -/
theorem advance (h : r.Orderly) (hc : r.calls[c]? = some call) {p : CallPhase}
    (calls : s.calls = (r.setPhase c p).calls) (slot : s.slot = r.slot) (links : s.links = r.links)
    (fits : Call.FitsKind ⟨call.kind, p⟩)
    (others : ∀ {d q}, c ≠ d → r.phase? d = some q → q.isConnecting → s.queue.head? = some d)
    (turn : p.isConnecting → s.queue.head? = some c)
    (idle : p.isConnecting → ∀ l, r.slot = some l → r.reader? l = some .finished)
    (unopened : ∀ l, p ≠ .opened l) (unheld : ∀ l, call.phase ≠ .opened l)
    (ended : ∀ l, call.phase = .joining l → r.reader? l = some .finished) : s.Orderly := by
  have same (d : CallId) : s.phase? d = (r.setPhase c p).phase? d := by rw [phase?, calls, phase?]
  have phase (d : CallId) := (same d).trans (phase?_setPhase hc p d)
  have reader (l : LinkId) : s.reader? l = r.reader? l := by rw [reader?, links, reader?]
  have aborted (l : LinkId) : s.isAborted l = r.isAborted l := by rw [isAborted, links, isAborted]
  refine ⟨?_, ?_, ?_, ?_, ?_, ?_, ?_⟩
  · intro d call' hd
    rw [calls, calls_setPhase hc] at hd
    split at hd
    · cases hd
      exact fits
    · exact h.fits hd
  · intro d q hd connecting
    rw [phase] at hd
    split at hd
    · next e =>
      cases hd
      exact e ▸ turn connecting
    · next ne => exact others ne hd connecting
  · intro d q l hd connecting hl
    rw [phase] at hd
    rw [slot] at hl
    rw [reader]
    split at hd
    · cases hd
      exact idle connecting l hl
    · exact h.idle hd connecting hl
  · intro d l hd
    rw [phase] at hd
    rw [reader, aborted]
    split at hd
    · exact absurd (Option.some.inj hd) (unopened l)
    · exact h.unread hd
  · intro l unstarted
    rw [reader] at unstarted
    obtain ⟨d, hd⟩ := h.held unstarted
    exact ⟨d, (same d).trans (phase?_setPhase_of_ne hc hd (unheld l))⟩
  · intro l live
    rw [isLive_iff, reader] at live
    rcases h.owned (isLive_iff.2 live) with hl | ⟨d, hd⟩
    · exact .inl (slot.trans hl)
    · refine .inr ⟨d, (same d).trans (phase?_setPhase_of_ne hc hd fun e => ?_)⟩
      obtain ⟨q, hq, running⟩ := live
      rw [ended l e] at hq
      cases hq
      cases running
  · simp only [slot, reader, aborted]; exact h.kept

/-- A call that is opening a link goes on with that. -/
theorem proceed (h : r.Orderly) (hc : r.calls[c]? = some call)
    (connecting : call.phase.isConnecting) {p : CallPhase}
    (calls : s.calls = (r.setPhase c p).calls) (queue : s.queue = r.queue)
    (slot : s.slot = r.slot) (links : s.links = r.links) (still : p.isConnecting)
    (unopened : ∀ l, p ≠ .opened l) (unheld : ∀ l, call.phase ≠ .opened l) : s.Orderly := by
  have hp := phase?_of_calls hc
  refine h.advance hc calls slot links ⟨fun _ => (h.fits hc).1 connecting, ?_⟩ ?_ ?_ ?_ unopened
    unheld ?_
  · intro closing
    cases p <;> simp_all [CallPhase.isConnecting, CallPhase.isClosing]
  · intro d q _ hd
    rw [queue]
    exact h.turn hd
  · intro _
    rw [queue]
    exact h.turn hp connecting
  · intro _ l
    exact h.idle hp connecting
  · intro l e
    rw [e] at connecting
    cases connecting

/-- A call that does nothing more to the link lets the next one have its turn. -/
theorem release (h : r.Orderly) (hc : r.calls[c]? = some call) (turn : r.queue.head? = some c)
    {p : CallPhase} (calls : s.calls = (r.setPhase c p).calls) (slot : s.slot = r.slot)
    (links : s.links = r.links) (passed : p.isConnecting = false ∧ p.isClosing = false)
    (unheld : ∀ l, call.phase ≠ .opened l) (notClosing : call.phase.isClosing = false) :
    s.Orderly := by
  refine h.advance hc calls slot links ?_ ?_ ?_ ?_ ?_ unheld ?_
  · exact ⟨fun e => by simp [passed.1] at e, fun e => by simp [passed.2] at e⟩
  · intro d q ne hd connecting
    exact absurd (h.eq_of_turn turn hd connecting) ne
  · intro e
    simp [passed.1] at e
  · intro e
    simp [passed.1] at e
  · rintro l rfl
    cases passed.1
  · intro l e
    rw [e] at notClosing
    cases notClosing

/-- A call to close takes the reader out of the slot. -/
theorem take (h : r.Orderly) (hc : r.calls[c]? = some ⟨.close, .queued⟩)
    (turn : r.queue.head? = some c) (slot : r.slot = some l)
    (calls : s.calls = (r.setPhase c (.joining l)).calls) (vacant : s.slot = none)
    (reader : ∀ k, s.reader? k = r.reader? k) : s.Orderly := by
  have same (d : CallId) : s.phase? d = (r.setPhase c (.joining l)).phase? d := by
    rw [phase?, calls, phase?]
  have quiet {d q} (hd : s.phase? d = some q) : q.isConnecting = false :=
    h.isConnecting_of_setPhase hc turn rfl ((same d).symm.trans hd)
  refine ⟨?_, ?_, ?_, ?_, ?_, ?_, ?_⟩
  · intro d call hd
    rw [calls, calls_setPhase hc] at hd
    split at hd
    · cases hd
      exact ⟨fun e => Bool.noConfusion e, fun _ => rfl⟩
    · exact h.fits hd
  · intro d q hd connecting
    simp [quiet hd] at connecting
  · intro d q k hd connecting
    simp [quiet hd] at connecting
  · intro d k hd
    cases quiet hd
  · intro k unstarted
    rw [reader] at unstarted
    obtain ⟨d, hd⟩ := h.held unstarted
    exact ⟨d, (same d).trans (phase?_setPhase_of_ne hc hd (by simp))⟩
  · intro k live
    right
    rw [isLive_eq, reader, ← isLive_eq] at live
    rcases h.owned live with hk | ⟨d, hd⟩
    · rw [slot] at hk
      cases hk
      exact ⟨c, (same c).trans ((phase?_setPhase hc _ c).trans (if_pos rfl))⟩
    · exact ⟨d, (same d).trans (phase?_setPhase_of_ne hc hd (by simp))⟩
  · intro k hk
    rw [vacant] at hk
    cases hk

/-- A link is opened. -/
theorem opened (h : r.Orderly) (hc : r.calls[c]? = some call) (opening : call.phase = .opening)
    (calls : s.calls = (r.setPhase c (.opened r.links.length)).calls) (queue : s.queue = r.queue)
    (slot : s.slot = r.slot) (links : s.links = r.links ++ [({} : Link)]) : s.Orderly := by
  have hp : r.phase? c = some .opening := (phase?_of_calls hc).trans (congrArg some opening)
  have same (d : CallId) : s.phase? d = (r.setPhase c (.opened r.links.length)).phase? d := by
    rw [phase?, calls, phase?]
  have phase (d : CallId) := (same d).trans (phase?_setPhase hc (.opened r.links.length) d)
  have new : s.reader? r.links.length = some .unstarted ∧ s.isAborted r.links.length = false := by
    simp [reader?, isAborted, links]
  have before {k : LinkId} (ne : k ≠ r.links.length) : s.links[k]? = r.links[k]? := by
    rw [links]
    rcases Nat.lt_or_gt_of_ne ne with lt | gt
    · exact List.getElem?_append_left lt
    · rw [List.getElem?_eq_none (by rw [List.length_append, List.length_singleton]; exact gt),
        List.getElem?_eq_none (Nat.le_of_lt gt)]
  have old {k q} (hk : r.reader? k = some q) :
      s.reader? k = some q ∧ s.isAborted k = r.isAborted k := by
    have ne : k ≠ r.links.length := by
      rintro rfl
      simp [reader?] at hk
    rw [reader?, isAborted, before ne]
    exact ⟨hk, rfl⟩
  refine ⟨?_, ?_, ?_, ?_, ?_, ?_, ?_⟩
  · intro d call' hd
    rw [calls, calls_setPhase hc] at hd
    split at hd
    · cases hd
      exact ⟨fun _ => (h.fits hc).1 (by rw [opening]; rfl), fun e => Bool.noConfusion e⟩
    · exact h.fits hd
  · intro d q hd connecting
    rw [phase] at hd
    rw [queue]
    split at hd
    · next e => exact e ▸ h.turn hp rfl
    · exact h.turn hd connecting
  · intro d q k _ _ hk
    exact (old (h.idle hp rfl (slot ▸ hk))).1
  · intro d k hd
    rw [phase] at hd
    split at hd
    · cases hd
      exact new
    · have := h.unread hd
      rw [(old this.1).1, (old this.1).2]
      exact ⟨rfl, this.2⟩
  · intro k unstarted
    by_cases e : k = r.links.length
    · exact ⟨c, by rw [phase, if_pos rfl, e]⟩
    · rw [reader?, before e] at unstarted
      obtain ⟨d, hd⟩ := h.held unstarted
      exact ⟨d, (same d).trans (phase?_setPhase_of_ne hc hd (by simp [opening]))⟩
  · intro k live
    have ne : k ≠ r.links.length := by
      rintro rfl
      rw [isLive_eq, new.1] at live
      cases live
    rw [isLive, before ne] at live
    rcases h.owned live with hk | ⟨d, hd⟩
    · exact .inl (slot.trans hk)
    · exact .inr ⟨d, (same d).trans (phase?_setPhase_of_ne hc hd (by simp [opening]))⟩
  · intro k hk
    obtain ⟨⟨q, hq, started⟩, kept⟩ := h.kept (slot ▸ hk)
    rw [(old hq).1, (old hq).2]
    exact ⟨⟨q, rfl, started⟩, kept⟩

/-- The reader of a link is started, and the link goes into the slot. -/
theorem publish (h : r.Orderly) (hc : r.calls[c]? = some call) (opened : call.phase = .opened l)
    (calls : s.calls = (r.setPhase c (.done none)).calls) (slot : s.slot = some l)
    (reader : ∀ k, s.reader? k = if l = k then some .receiving else r.reader? k)
    (aborted : ∀ k, s.isAborted k = r.isAborted k) : s.Orderly := by
  have hp : r.phase? c = some (.opened l) := (phase?_of_calls hc).trans (congrArg some opened)
  have same (d : CallId) : s.phase? d = (r.setPhase c (.done none)).phase? d := by
    rw [phase?, calls, phase?]
  have quiet {d q} (hd : s.phase? d = some q) : q.isConnecting = false :=
    h.isConnecting_of_setPhase hc (h.turn hp rfl) rfl ((same d).symm.trans hd)
  refine ⟨?_, ?_, ?_, ?_, ?_, ?_, ?_⟩
  · intro d call' hd
    rw [calls, calls_setPhase hc] at hd
    split at hd
    · cases hd
      constructor <;> intro e <;> cases e
    · exact h.fits hd
  · intro d q hd connecting
    simp [quiet hd] at connecting
  · intro d q k hd connecting
    simp [quiet hd] at connecting
  · intro d k hd
    cases quiet hd
  · intro k unstarted
    rw [reader] at unstarted
    split at unstarted
    · cases unstarted
    · next ne =>
      obtain ⟨d, hd⟩ := h.held unstarted
      refine ⟨d, (same d).trans (phase?_setPhase_of_ne hc hd fun e => ?_)⟩
      exact ne (CallPhase.opened.inj (opened.symm.trans e))
  · intro k live
    rw [isLive_eq, reader] at live
    split at live
    · next e => exact .inl (e ▸ slot)
    · rw [← isLive_eq] at live
      rcases h.owned live with hk | ⟨d, hd⟩
      · rw [isLive_eq, h.idle hp rfl hk] at live
        cases live
      · exact .inr ⟨d, (same d).trans (phase?_setPhase_of_ne hc hd (by simp [opened]))⟩
  · intro k hk
    rw [slot] at hk
    cases hk
    rw [reader, aborted, if_pos rfl]
    exact ⟨⟨.receiving, rfl, by simp⟩, (h.unread hp).2⟩

/-! ## Steps of readers -/

/-- A reader at work goes on or finishes. -/
theorem read (h : r.Orderly) (found : r.links[l]? = some link) (running : link.isRunning)
    {f : Link → Link} (started : (f link).reader ≠ .unstarted)
    (aborted : ∀ k, (f k).aborted = k.aborted) : (r.updateLink l f).Orderly := by
  have live : r.isLive l := isLive_iff.2 ⟨_, reader?_of_links found, running⟩
  have reader := reader?_updateLink found f
  have same := isAborted_updateLink_of_eq r l aborted
  refine ⟨h.fits, h.turn, ?_, ?_, ?_, ?_, ?_⟩
  · intro d q k hd connecting slot
    have ended := h.idle hd connecting slot
    rw [reader, if_neg]
    · exact ended
    · rintro rfl
      rw [isLive_eq, ended] at live
      cases live
  · intro d k hd
    have unread := h.unread hd
    rw [reader, same, if_neg]
    · exact unread
    · rintro rfl
      rw [isLive_eq, unread.1] at live
      cases live
  · intro k unstarted
    rw [reader] at unstarted
    split at unstarted
    · exact absurd (Option.some.inj unstarted) started
    · exact h.held unstarted
  · intro k live'
    rw [isLive_eq, reader] at live'
    split at live'
    · next e => exact h.owned (e ▸ live)
    · exact h.owned ((isLive_eq r k).trans live')
  · intro k slot
    rw [reader, same]
    refine ⟨?_, (h.kept slot).2⟩
    split
    · exact ⟨_, rfl, started⟩
    · exact (h.kept slot).1

/-- Every step keeps the order. -/
theorem step {a : Action} (h : r.Orderly) (step : Step a r s) : s.Orderly := by
  cases step with
  | start => exact h.start _
  | reuse call turn active => exact h.release call turn rfl rfl rfl ⟨rfl, rfl⟩ nofun rfl
  | begin call turn inactive =>
    refine h.advance call rfl rfl rfl ⟨fun _ => rfl, nofun⟩ ?_ (fun _ => turn) ?_ nofun nofun nofun
    · intro d q ne hd connecting
      exact h.turn hd connecting
    · intro _ l slot
      obtain ⟨⟨p, hp, started⟩, -⟩ := h.kept slot
      have idle := activeLink?_eq_none_iff.1 inactive l slot
      rw [isLive_eq, hp] at idle
      rw [hp]
      cases p <;> simp_all [ReaderPhase.isRunning]
  | skip call turn vacant => exact h.release call turn rfl rfl rfl ⟨rfl, rfl⟩ nofun rfl
  | take call turn occupied =>
    exact h.take call turn occupied rfl rfl (reader?_updateLink_of_eq r _ fun _ => rfl)
  | report call => exact h.proceed call rfl rfl rfl rfl rfl rfl nofun nofun
  | refused call => exact h.proceed call rfl rfl rfl rfl rfl rfl nofun nofun
  | opened call => exact h.opened call rfl rfl rfl rfl rfl
  | publish call =>
    have unread := (h.unread (phase?_of_calls call)).1
    obtain ⟨link, found, -⟩ := Option.map_eq_some_iff.1 unread
    exact h.publish call rfl rfl rfl (reader?_updateLink found _)
      (isAborted_updateLink_of_eq r _ fun _ => rfl)
  | fail call =>
    exact h.release call (h.turn (phase?_of_calls call) rfl) rfl rfl rfl ⟨rfl, rfl⟩ nofun rfl
  | join call ended =>
    have fits : Call.FitsKind ⟨_, .joined⟩ := ⟨nofun, fun _ => (h.fits call).2 rfl⟩
    refine h.advance call rfl rfl rfl fits ?_ nofun nofun nofun nofun ?_
    · intro d q _
      exact h.turn
    · intro l e
      cases e
      exact ended
  | closed call =>
    refine h.advance call rfl rfl rfl ⟨nofun, nofun⟩ ?_ nofun nofun nofun nofun nofun
    intro d q _
    exact h.turn
  | receive found receiving inbox =>
    exact h.read found (by rw [Link.isRunning, receiving]; rfl) (receive_ne_unstarted _)
      fun _ => rfl
  | exhaust found receiving empty noSender =>
    exact h.read found (by rw [Link.isRunning, receiving]; rfl) nofun fun _ => rfl
  | dispatch found dispatching =>
    exact h.read found (by rw [Link.isRunning, dispatching]; rfl) nofun fun _ => rfl
  | finish found ending =>
    have : (r.updateLink _ fun link => { link with reader := .finished }).Orderly :=
      h.read found (by rw [Link.isRunning, ending]; rfl) nofun fun _ => rfl
    exact this.congr rfl rfl rfl (fun _ => rfl) fun _ => rfl
  | cancel found aborted running => exact h.read found running nofun fun _ => rfl
  | accept waiting found unfinished room =>
    exact h.congr rfl rfl rfl (reader?_updateLink_of_eq r _ fun _ => rfl)
      (isAborted_updateLink_of_eq r _ fun _ => rfl)
  | push | miss | lose | disconnect | refuse | gate =>
    exact h.congr rfl rfl rfl (fun _ => rfl) fun _ => rfl
  | draw | store | remove | unsubscribe => exact h.congr rfl rfl rfl (fun _ => rfl) fun _ => rfl

end Orderly

theorem orderly_of_run? {r s : Registry} {actions : List Action} (h : r.Orderly)
    (run : r.run? actions = some s) : s.Orderly :=
  run?_induction (P := fun _ mid => mid.Orderly) h (fun _ mid step => mid.step step) run

end Registry

end GardenAdmin
