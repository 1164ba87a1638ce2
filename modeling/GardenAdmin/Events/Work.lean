import GardenAdmin.Events.Registry

/-!
# Work left

How many steps calls, readers and messages can still take when nothing comes from outside. Every such
step leaves less work (`Registry.work_callStep?`, `Registry.work_readStep?`, `Registry.work_cancel?`,
`Registry.work_sendStep?`), so a registry left alone comes to rest.
-/

namespace GardenAdmin

/-- The steps a reader has left, apart from those on waiting messages. -/
def ReaderPhase.work : ReaderPhase → Nat
  | .dispatching _ => 3
  | .receiving => 2
  | .ending => 1
  | .unstarted | .finished => 0

def Link.work (l : Link) : Nat := 2 * l.inbox.length + l.reader.work

/-- The steps a call has left, with those of the reader it may start. -/
def CallPhase.work : CallPhase → Nat
  | .queued => 6
  | .starting => 5
  | .opening => 4
  | .opened _ => 3
  | .joining _ => 2
  | .refused _ | .joined => 1
  | .done _ => 0

def Call.work (c : Call) : Nat := c.phase.work

namespace Registry

/-- What `g` gives for all items together. -/
def total {α : Type} (g : α → Nat) : List α → Nat
  | [] => 0
  | x :: xs => g x + total g xs

/-- A message on its way counts for its own step and those it may cost the reader. -/
def work (r : Registry) : Nat :=
  total Call.work r.calls + total Link.work r.links + 3 * r.waiting.length

theorem total_append {α : Type} (g : α → Nat) (xs ys : List α) :
    total g (xs ++ ys) = total g xs + total g ys := by
  induction xs with
  | nil => simp [total]
  | cons x xs ih => rw [List.cons_append, total, total, ih, Nat.add_assoc]

theorem total_modify {α : Type} (g : α → Nat) (f : α → α) {xs : List α} {i : Nat} {a : α}
    (h : xs[i]? = some a) : total g (xs.modify i f) + g a = total g xs + g (f a) := by
  induction xs generalizing i with
  | nil => simp at h
  | cons x xs ih =>
    cases i with
    | zero =>
      simp only [List.getElem?_cons_zero, Option.some.injEq] at h
      subst h
      simp only [List.modify_zero_cons, total]
      omega
    | succ i =>
      simp only [List.getElem?_cons_succ] at h
      have := ih h
      simp only [List.modify_succ_cons, total]
      omega

theorem work_setPhase {r : Registry} {c : CallId} {call : Call} (p : CallPhase)
    (h : r.calls[c]? = some call) : (r.setPhase c p).work + call.work = r.work + p.work := by
  have := total_modify Call.work (fun call => { call with phase := p }) h
  simp only [work, setPhase, Call.work] at *
  omega

theorem work_updateLink {r : Registry} {l : LinkId} {link : Link} (f : Link → Link)
    (h : r.links[l]? = some link) : (r.updateLink l f).work + link.work = r.work + (f link).work := by
  have := total_modify Link.work f h
  simp only [work, updateLink] at *
  omega

/-- Marking a reader changes no work. -/
theorem work_abort (r : Registry) (l : LinkId) :
    (r.updateLink l fun link => { link with aborted := true }).work = r.work := by
  cases h : r.links[l]? with
  | none =>
    rw [List.getElem?_eq_none_iff] at h
    simp only [updateLink, List.modify_eq_self h]
  | some link =>
    have := work_updateLink (fun link => { link with aborted := true }) h
    simp only [Link.work, Link.inbox] at this
    omega

theorem work_beginConnect {r : Registry} {c : CallId} {call : Call} (h : r.calls[c]? = some call)
    (queued : call.phase = .queued) : (r.beginConnect c).work < r.work := by
  have hw : call.work = 6 := by simp [Call.work, queued, CallPhase.work]
  unfold beginConnect
  split
  · have := work_setPhase (.done none) h
    change (r.setPhase c (.done none)).work < r.work
    simp only [CallPhase.work] at this
    omega
  · have := work_setPhase .starting h
    simp only [CallPhase.work] at this
    omega

theorem work_beginClose {r : Registry} {c : CallId} {call : Call} (h : r.calls[c]? = some call)
    (queued : call.phase = .queued) : (r.beginClose c).work < r.work := by
  have hw : call.work = 6 := by simp [Call.work, queued, CallPhase.work]
  unfold beginClose
  split
  · have := work_setPhase (.done none) h
    change (r.setPhase c (.done none)).work < r.work
    simp only [CallPhase.work] at this
    omega
  · rename_i l _
    have ha := work_abort r l
    have := work_setPhase (r := r.updateLink l fun link => { link with aborted := true })
      (.joining l) h
    simp only [CallPhase.work] at this
    change ((r.updateLink l fun link => { link with aborted := true }).setPhase c (.joining l)).work <
      r.work
    omega

theorem work_openLink {r : Registry} {c : CallId} {call : Call} (h : r.calls[c]? = some call)
    (opening : call.phase = .opening) : (r.openLink c).work < r.work := by
  have hw : call.work = 4 := by simp [Call.work, opening, CallPhase.work]
  unfold openLink
  split
  · have := work_setPhase (.refused ⟨r.url, "connection refused"⟩) h
    simp only [CallPhase.work] at this
    omega
  · have := work_setPhase (.opened r.links.length) h
    simp only [work, setPhase, CallPhase.work] at *
    simp only [total_append, total, Link.work, Link.inbox, List.drop_nil, List.length_nil,
      ReaderPhase.work]
    omega

theorem work_publish {r : Registry} {c : CallId} {l : LinkId} {call : Call}
    (h : r.calls[c]? = some call) (opened : call.phase = .opened l) :
    (r.publish c l).work < r.work := by
  have hw : call.work = 3 := by simp [Call.work, opened, CallPhase.work]
  have hc := work_setPhase (r := r.updateLink l fun link => { link with reader := .receiving })
    (.done none) h
  change ((r.updateLink l fun link => { link with reader := .receiving }).setPhase c
    (.done none)).work < r.work
  simp only [CallPhase.work] at hc
  cases hl : r.links[l]? with
  | none =>
    rw [List.getElem?_eq_none_iff] at hl
    have : (r.updateLink l fun link => { link with reader := .receiving }).work = r.work := by
      simp only [updateLink, List.modify_eq_self hl]
    omega
  | some link =>
    have := work_updateLink (fun link => { link with reader := .receiving }) hl
    simp only [Link.work, Link.inbox, ReaderPhase.work] at this
    omega

theorem work_callStep? {r s : Registry} {c : CallId} (h : r.callStep? c = some s) :
    s.work < r.work := by
  simp only [callStep?, Option.bind_eq_bind, Option.bind_eq_some_iff] at h
  obtain ⟨call, hc, h⟩ := h
  have step (p : CallPhase) := work_setPhase p hc
  simp only [Call.work] at step
  split at h
  · rename_i hp
    split at h
    · split at h
      · exact Option.some.inj h ▸ work_beginConnect hc hp
      · exact Option.some.inj h ▸ work_beginClose hc hp
    · cases h
  · rename_i hp
    cases h
    have := step .opening
    simp only [hp, CallPhase.work] at this
    change (r.setPhase c .opening).work < r.work
    omega
  · rename_i hp
    split at h
    · exact Option.some.inj h ▸ work_openLink hc hp
    · cases h
  · rename_i hp
    exact Option.some.inj h ▸ work_publish hc hp
  · rename_i e hp
    cases h
    have := step (.done (some e))
    simp only [hp, CallPhase.work] at this
    change (r.setPhase c (.done (some e))).work < r.work
    omega
  · rename_i hp
    split at h
    · cases h
      have := step .joined
      simp only [hp, CallPhase.work] at this
      omega
    · cases h
  · rename_i hp
    cases h
    have := step (.done none)
    simp only [hp, CallPhase.work] at this
    change (r.setPhase c (.done none)).work < r.work
    omega
  · cases h

theorem work_receive (message : String) : (receive message).work ≤ 3 := by
  unfold receive
  split <;> simp [ReaderPhase.work]

theorem work_readStep? {r s : Registry} {l : LinkId} (h : r.readStep? l = some s) :
    s.work < r.work := by
  simp only [readStep?, Option.bind_eq_bind, Option.bind_eq_some_iff] at h
  obtain ⟨link, hl, h⟩ := h
  have step (f : Link → Link) := work_updateLink f hl
  simp only [Link.work] at step
  split at h
  · rename_i hp
    split at h
    · rename_i message rest hi
      cases h
      have := step fun link => { link with taken := link.taken + 1, reader := receive message }
      have hm := work_receive message
      simp only [Link.inbox] at hi this
      rw [← List.drop_drop, hi] at this
      simp only [hp, List.length_cons, List.drop_succ_cons, List.drop_zero] at this
      have : ReaderPhase.receiving.work = 2 := rfl
      omega
    · split at h
      · cases h
      · cases h
        have := step fun link => { link with reader := .ending }
        simp only [hp, ReaderPhase.work, Link.inbox] at this
        omega
  · rename_i e hp
    cases h
    have := step fun link =>
      { link with reader := .receiving, deliveries := link.deliveries ++ [r.callbacks.deliver e] }
    simp only [hp, ReaderPhase.work, Link.inbox] at this
    omega
  · rename_i hp
    cases h
    have := step fun link => { link with reader := .finished }
    simp only [hp, ReaderPhase.work, Link.inbox] at this
    change (r.updateLink l fun link => { link with reader := .finished }).work < r.work
    omega
  · cases h
  · cases h

theorem work_cancel? {r s : Registry} {l : LinkId} (h : r.cancel? l = some s) :
    s.work < r.work := by
  simp only [cancel?, Option.bind_eq_bind, Option.bind_eq_some_iff] at h
  obtain ⟨link, hl, h⟩ := h
  split at h
  · rename_i hr
    cases h
    have := work_updateLink (fun link => { link with reader := .finished }) hl
    have hpos : 0 < link.reader.work := by
      simp only [Bool.and_eq_true, Link.isRunning] at hr
      revert hr
      cases link.reader <;> simp [ReaderPhase.isRunning, ReaderPhase.work]
    simp only [Link.work, Link.inbox] at this
    have : ReaderPhase.finished.work = 0 := rfl
    omega
  · cases h

theorem length_inbox_accept_le (link : Link) (message : String) :
    ({ link with accepted := link.accepted ++ [message] } : Link).inbox.length ≤
      link.inbox.length + 1 := by
  simp only [Link.inbox, List.length_drop, List.length_append, List.length_singleton]
  omega

theorem work_settle {r : Registry} {p : Push} (h : p ∈ r.waiting) :
    (r.settle p.id).work + 3 ≤ r.work := by
  have : (r.waiting.filter (·.id ≠ p.id)).length < r.waiting.length :=
    List.length_filter_lt_length_iff_exists.2 ⟨p, h, by simp⟩
  simp only [work, settle]
  omega

theorem work_sendStep? {r s : Registry} {id : PushId} (h : r.sendStep? id = some s) :
    s.work < r.work := by
  simp only [sendStep?, Option.bind_eq_bind, Option.bind_eq_some_iff] at h
  obtain ⟨p, hp, link, hl, h⟩ := h
  have hp := List.mem_of_find?_eq_some hp
  split at h
  · cases h
    have := work_settle hp
    change (r.settle p.id).work < r.work
    omega
  · split at h
    · cases h
      have taken := work_updateLink
        (fun link => { link with accepted := link.accepted ++ [p.message] }) hl
      have := work_settle (r := r.updateLink p.link fun link =>
        { link with accepted := link.accepted ++ [p.message] }) hp
      have := length_inbox_accept_le link p.message
      simp only [Link.work] at taken
      simp only [accept]
      omega
    · cases h

end Registry

end GardenAdmin
