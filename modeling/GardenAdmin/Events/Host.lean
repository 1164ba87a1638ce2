import GardenAdmin.Events.Work
import GardenAdmin.Panel

/-!
# Running a registry

A host lets the calls, readers and waiting messages of a registry take turns until none can go on. One that can
go on does so until it has to wait; those it enables queue up behind the others. The host also carries
out the reactions of callbacks: notes and the panel while an event is delivered, changes to the
callbacks right after it.
-/

namespace GardenAdmin

/-- Whoever takes steps of its own in a registry. -/
inductive Task where
  | call (c : CallId)
  | reader (l : LinkId)
  | push (p : PushId)
  deriving DecidableEq, Repr

namespace Task

/-- The next step of a task. A reader that was told to stop stops. -/
def step? (r : Registry) : Task → Option Registry
  | .call c => r.callStep? c
  | .reader l => r.cancel? l <|> r.readStep? l
  | .push p => r.sendStep? p

theorem work_step? {r s : Registry} {t : Task} (h : t.step? r = some s) : s.work < r.work := by
  cases t with
  | call c => exact Registry.work_callStep? h
  | reader l =>
    simp only [step?, Option.orElse_eq_orElse, Option.orElse_eq_or, Option.or_eq_some_iff] at h
    rcases h with h | ⟨_, h⟩
    · exact Registry.work_cancel? h
    · exact Registry.work_readStep? h
  | push p => exact Registry.work_sendStep? h

end Task

namespace Registry

/-- Calls first, then readers, then messages, each in the order of their numbers. -/
def tasks (r : Registry) : List Task :=
  (List.range r.calls.length).map .call ++ (List.range r.links.length).map .reader ++
    r.waiting.map (.push ·.id)

/-- The tasks that can go on. -/
def ready (r : Registry) : List Task := r.tasks.filter fun t => (t.step? r).isSome

end Registry

/-- What a callback leaves behind. -/
inductive Note where
  | called (tag event : String)
  /-- The panel was handed the event; whether it concerned it. -/
  | fed (tag : String) (changed : Bool)
  deriving DecidableEq, Repr

/-- What a reaction changes about the callbacks. -/
def Reaction.after (c : Callbacks) : Reaction → Callbacks
  | .register name => (c.register name { tag := name }).2
  | .remove name => (c.remove name).2
  | .nothing | .panic | .feedPanel => c

structure Host where
  registry : Registry
  /-- The panel that callbacks may feed. -/
  panel : Option Panel := none
  /-- The notes of all callbacks, oldest first. -/
  notes : List Note := []
  /-- The calls that have returned, first come first. -/
  returned : List CallId := []

namespace Host

/-- A callback is called with an event. -/
def call (h : Host) (e : Event) (c : Callback) : Host :=
  match c.reaction, h.panel with
  | .feedPanel, some panel =>
    { h with
      panel := some (panel.handle e).1
      notes := h.notes ++ [Note.called c.tag e.name, Note.fed c.tag (panel.handle e).2] }
  | _, _ => { h with notes := h.notes ++ [Note.called c.tag e.name] }

/-- An event is delivered, and the callbacks are changed as its reactions ask. -/
def deliver (h : Host) (d : Delivery) : Host :=
  let callbacks := d.calls.map fun (_, r, _) => r.callback
  let h := callbacks.foldl (call · d.event) h
  { h with registry.callbacks :=
      callbacks.foldl (fun c callback => callback.reaction.after c) h.registry.callbacks }

/-- What the step of a task brought: the deliveries it made and whether it returned. -/
def follow (h : Host) (r : Registry) : Task → Host
  | .call c =>
    match r.phase? c with
    | some (.done _) => { h with registry := r, returned := h.returned ++ [c] }
    | _ => { h with registry := r }
  | .reader l =>
    let before := ((h.registry.links[l]?).map (·.deliveries.length)).getD 0
    let made := ((r.links[l]?).map (·.deliveries.drop before)).getD []
    made.foldl deliver { h with registry := r }
  | .push _ => { h with registry := r }

def step? (h : Host) (t : Task) : Option Host := (t.step? h.registry).map (h.follow · t)

/-! ## Coming to rest -/

theorem registry_call (h : Host) (e : Event) (c : Callback) :
    (h.call e c).registry = h.registry := by
  unfold call
  split <;> rfl

theorem work_deliver (h : Host) (d : Delivery) :
    (h.deliver d).registry.work = h.registry.work := by
  have (cs : List Callback) (g : Host) : (cs.foldl (call · d.event) g).registry = g.registry := by
    induction cs generalizing g with
    | nil => rfl
    | cons c cs ih => rw [List.foldl_cons, ih, registry_call]
  simp only [deliver, Registry.work, this]

theorem work_follow (h : Host) (r : Registry) (t : Task) :
    (h.follow r t).registry.work = r.work := by
  cases t with
  | call c =>
    simp only [follow]
    split <;> rfl
  | reader l =>
    have (ds : List Delivery) (g : Host) :
        (ds.foldl deliver g).registry.work = g.registry.work := by
      induction ds generalizing g with
      | nil => rfl
      | cons d ds ih => rw [List.foldl_cons, ih, work_deliver]
    simp only [follow, this]
  | push p => rfl

theorem work_step? {h g : Host} {t : Task} (hs : h.step? t = some g) :
    g.registry.work < h.registry.work := by
  obtain ⟨r, hr, rfl⟩ := Option.map_eq_some_iff.1 hs
  rw [work_follow]
  exact Task.work_step? hr

/-- The tasks in the queue go on in turn until none can. -/
def runTasks (queue : List Task) (h : Host) : Host :=
  match queue with
  | [] => h
  | t :: rest =>
    match _hs : h.step? t with
    | none => runTasks rest h
    | some g => runTasks (t :: rest ++ g.registry.ready.filter (· ∉ t :: rest)) g
termination_by (h.registry.work, queue.length)
decreasing_by
  · exact .right _ (by simp)
  · exact .left _ _ (work_step? _hs)

/-- The host once nothing can go on any more. -/
def rest (h : Host) : Host := runTasks h.registry.ready h

/-- Something is done to the registry from outside, if it can be done. -/
def act (h : Host) (a : Action) : Host :=
  { h with registry := (h.registry.act? a).getD h.registry }

/-- A call is started. -/
def start (h : Host) (kind : CallKind) : CallId × Host :=
  (h.registry.calls.length, h.act (.start kind))

/-- A callback is registered. -/
def register (h : Host) (name : String) (callback : Callback) : Handle × Host :=
  let (handle, callbacks) := h.registry.callbacks.register name callback
  (handle, { h with registry.callbacks := callbacks })

/-- The callback of a name is removed, if there is one. -/
def remove (h : Host) (name : String) : Bool × Host :=
  ((h.registry.callbacks.remove name).1, h.act (.remove name))

/-- The registration of a handle is removed, if it is still stored. -/
def unsubscribe (h : Host) (handle : Handle) : Bool × Host :=
  ((h.registry.callbacks.unsubscribe handle).1, h.act (.unsubscribe handle))

/-- The server pushes a message, which may have to wait until there is room for it. Tells whether
anything received it. -/
def push (h : Host) (message : String) : Bool × Host :=
  let p := h.registry.nextPush
  let h := (h.act (.push message)).act (.send p)
  let h := if h.registry.waiting.any (·.id = p) then h.rest else h
  (!h.registry.lost.contains p, h)

/-- The calls that have not returned. -/
def pending (h : Host) : List CallId :=
  (List.range h.registry.calls.length).filter (· ∉ h.returned)

/-- How a call that has returned ended. -/
def failure? (h : Host) (c : CallId) : Option ConnectError :=
  match h.registry.phase? c with
  | some (.done failure) => failure
  | _ => none

end Host

end GardenAdmin
