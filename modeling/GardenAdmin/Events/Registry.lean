import GardenAdmin.Events.Link

/-!
# The event registry

One registry keeps at most one link to the server and fans its events out to the callbacks. Calls to
connect and to close run side by side and take turns at the link; so do the readers of the links.
`Registry.act?` is one step of any of them, from one point where it can be interrupted to the next, or
one thing done to the registry from outside. A run is any sequence of such steps.

A call to close lets the next call at the link before it waits for the reader it stopped. A message
that waits for room stays bound for the link it was pushed to, whatever becomes of the server's side.
-/

namespace GardenAdmin

/-- Calls are numbered in the order they were started. -/
abbrev CallId := Nat

/-- Links are numbered in the order they were opened. -/
abbrev LinkId := Nat

/-- Messages are numbered in the order the server pushed them. -/
abbrev PushId := Nat

inductive CallKind where
  | connect
  | close
  deriving DecidableEq, Repr

/-- What a call is about to do. -/
inductive CallPhase where
  /-- Act on the link, once it is its turn. -/
  | queued
  /-- Report that a link is being opened. -/
  | starting
  /-- Open a link. -/
  | opening
  /-- Start the reader of the link it opened and report that it is open. -/
  | opened (l : LinkId)
  /-- Report that no link could be opened. -/
  | refused (e : ConnectError)
  /-- Go on when the reader it stopped has finished. -/
  | joining (l : LinkId)
  /-- Report that the link is closed. -/
  | joined
  /-- It has returned, with an error or without. -/
  | done (failure : Option ConnectError)
  deriving DecidableEq, Repr

structure Call where
  kind : CallKind
  phase : CallPhase := .queued
  deriving DecidableEq, Repr

/-- A message on its way to the link it was pushed to. -/
structure Push where
  id : PushId
  message : String
  link : LinkId
  deriving DecidableEq, Repr

structure Registry where
  /-- The address of the server, as errors name it. -/
  url : String
  callbacks : Callbacks := {}
  state : LinkState := .noConnection
  /-- The link of the registry. -/
  slot : Option LinkId := none
  /-- The calls that have the slot locked or wait for it, in the order of their turns. -/
  queue : List CallId := []
  calls : List Call := []
  links : List Link := []
  /-- The messages that have not reached their links. -/
  waiting : List Push := []
  /-- The messages that nothing received, latest first. -/
  lost : List PushId := []
  nextPush : PushId := 0
  /-- The link that the server pushes to. -/
  current : Option LinkId := none
  /-- How many messages may wait on a link. -/
  capacity : Nat := 64
  /-- The server refuses new links. -/
  refusing : Bool := false
  /-- While it is shut, opening a link waits. -/
  gateOpen : Bool := true
  deriving DecidableEq, Repr

/-- One step of a run. -/
inductive Action where
  /-- A call is started. -/
  | start (kind : CallKind)
  /-- A call goes on. -/
  | call (c : CallId)
  /-- A reader goes on. -/
  | read (l : LinkId)
  /-- A reader that was told to stop does so. -/
  | cancel (l : LinkId)
  /-- The server pushes a message. -/
  | push (message : String)
  /-- A message that was pushed reaches its link. -/
  | send (p : PushId)
  /-- The server ends the link. -/
  | disconnect
  | refuse (on : Bool)
  | gate (on : Bool)
  /-- A registration draws its generation. -/
  | draw (name : String) (callback : Callback)
  /-- A registration stores its callback. -/
  | store (handle : Handle)
  | remove (name : String)
  | unsubscribe (handle : Handle)
  deriving DecidableEq, Repr

namespace Registry

/-- A registry to which nothing has happened yet. -/
def fresh (url : String) (capacity : Nat) : Registry := { url, capacity }

/-- Where a call stands. -/
def phase? (r : Registry) (c : CallId) : Option CallPhase := (r.calls[c]?).map (·.phase)

/-- What the reader of a link is about to do. -/
def reader? (r : Registry) (l : LinkId) : Option ReaderPhase := (r.links[l]?).map (·.reader)

def setPhase (r : Registry) (c : CallId) (p : CallPhase) : Registry :=
  { r with calls := r.calls.modify c fun call => { call with phase := p } }

def updateLink (r : Registry) (l : LinkId) (f : Link → Link) : Registry :=
  { r with links := r.links.modify l f }

/-- The reader of a link was started and goes on. -/
def isLive (r : Registry) (l : LinkId) : Bool := (r.links[l]?).any (·.isRunning)

/-- The link in the slot, if its reader goes on. -/
def activeLink? (r : Registry) : Option LinkId := r.slot.filter r.isLive

/-- Ends the turn of the call that has the slot locked. -/
def release (r : Registry) : Registry := { r with queue := r.queue.tail }

/-! ## Calls -/

/-- A call to connect has its turn: an active link is good enough. -/
def beginConnect (r : Registry) (c : CallId) : Registry :=
  if r.activeLink?.isSome then (r.setPhase c (.done none)).release else r.setPhase c .starting

/-- A call to close has its turn: it empties the slot and stops the reader. -/
def beginClose (r : Registry) (c : CallId) : Registry :=
  match r.slot with
  | none => (r.setPhase c (.done none)).release
  | some l =>
    { (r.updateLink l fun link => { link with aborted := true }).setPhase c (.joining l) with
      slot := none
      queue := r.queue.tail }

/-- A link is opened, or the server refuses it. -/
def openLink (r : Registry) (c : CallId) : Registry :=
  if r.refusing then r.setPhase c (.refused ⟨r.url, "connection refused"⟩)
  else
    { r.setPhase c (.opened r.links.length) with
      links := r.links ++ [{}]
      current := some r.links.length }

/-- The reader of a link starts, and the link goes into the slot. -/
def publish (r : Registry) (c : CallId) (l : LinkId) : Registry :=
  { (r.updateLink l fun link => { link with reader := .receiving }).setPhase c (.done none) with
    state := .open
    slot := some l
    queue := r.queue.tail }

/-- The next step of a call. -/
def callStep? (r : Registry) (c : CallId) : Option Registry := do
  let call ← r.calls[c]?
  match call.phase with
  | .queued =>
    if r.queue.head? = some c then
      match call.kind with
      | .connect => some (r.beginConnect c)
      | .close => some (r.beginClose c)
    else none
  | .starting => some { r.setPhase c .opening with state := .connecting }
  | .opening => if r.gateOpen then some (r.openLink c) else none
  | .opened l => some (r.publish c l)
  | .refused e => some { r.setPhase c (.done (some e)) with state := .closed, queue := r.queue.tail }
  | .joining l =>
    if r.reader? l = some .finished then some (r.setPhase c .joined) else none
  | .joined => some { r.setPhase c (.done none) with state := .closed }
  | .done _ => none

/-! ## Readers -/

/-- More messages may come on a link: the server pushes to it, or a message waits there for room. -/
def hasSender (r : Registry) (l : LinkId) : Bool :=
  r.current = some l || r.waiting.any (·.link = l)

/-- What a reader does with a message. An undecodable one is dropped. -/
def receive (message : String) : ReaderPhase :=
  match Event.decode message with
  | .ok e => .dispatching e
  | .error _ => .receiving

/-- The next step of a reader. -/
def readStep? (r : Registry) (l : LinkId) : Option Registry := do
  let link ← r.links[l]?
  match link.reader with
  | .receiving =>
    match link.inbox with
    | message :: _ =>
      some (r.updateLink l fun link =>
        { link with taken := link.taken + 1, reader := receive message })
    | [] =>
      if r.hasSender l then none
      else some (r.updateLink l fun link => { link with reader := .ending })
  | .dispatching e =>
    some (r.updateLink l fun link =>
      { link with
        reader := .receiving
        deliveries := link.deliveries ++ [r.callbacks.deliver e] })
  | .ending =>
    some { r.updateLink l fun link => { link with reader := .finished } with state := .closed }
  | .unstarted | .finished => none

/-- A reader that was told to stop finishes without a further word. -/
def cancel? (r : Registry) (l : LinkId) : Option Registry := do
  let link ← r.links[l]?
  if link.aborted && link.isRunning then
    some (r.updateLink l fun link => { link with reader := .finished })
  else none

/-! ## From outside -/

/-- The link that takes the server's messages. -/
def receiver? (r : Registry) : Option LinkId :=
  r.current.filter fun l => (r.links[l]?).any (·.reader ≠ .finished)

/-- A message is pushed. It is bound for the link the server pushes to at this moment, and lost where
there is none. -/
def push (r : Registry) (message : String) : Registry :=
  match r.current with
  | some l =>
    { r with
      waiting := r.waiting ++ [⟨r.nextPush, message, l⟩]
      nextPush := r.nextPush + 1 }
  | none => { r with lost := r.nextPush :: r.lost, nextPush := r.nextPush + 1 }

/-- A message is no longer on its way. -/
def settle (r : Registry) (p : PushId) : Registry :=
  { r with waiting := r.waiting.filter (·.id ≠ p) }

/-- A link takes a message. -/
def accept (r : Registry) (p : Push) : Registry :=
  (r.updateLink p.link fun link => { link with accepted := link.accepted ++ [p.message] }).settle p.id

/-- A message is lost. -/
def lose (r : Registry) (p : Push) : Registry := { r.settle p.id with lost := p.id :: r.lost }

/-- A message reaches its link: the link takes it if there is room. A link whose reader has finished
takes nothing. -/
def sendStep? (r : Registry) (id : PushId) : Option Registry := do
  let p ← r.waiting.find? (·.id = id)
  let link ← r.links[p.link]?
  if link.reader = .finished then some (r.lose p)
  else if link.inbox.length < r.capacity then some (r.accept p)
  else none

/-- A call is started and queues up. -/
def start (r : Registry) (kind : CallKind) : Registry :=
  { r with calls := r.calls ++ [{ kind }], queue := r.queue ++ [r.calls.length] }

/-- One step; `none` where that step cannot be taken. -/
def act? (r : Registry) : Action → Option Registry
  | .start kind => some (r.start kind)
  | .call c => r.callStep? c
  | .read l => r.readStep? l
  | .cancel l => r.cancel? l
  | .push message => some (r.push message)
  | .send p => r.sendStep? p
  | .disconnect => some { r with current := none }
  | .refuse on => some { r with refusing := on }
  | .gate on => some { r with gateOpen := on }
  | .draw name callback => some { r with callbacks := (r.callbacks.draw name callback).2 }
  | .store handle => (r.callbacks.store? handle).map fun callbacks => { r with callbacks }
  | .remove name => some { r with callbacks := (r.callbacks.remove name).2 }
  | .unsubscribe handle => some { r with callbacks := (r.callbacks.unsubscribe handle).2 }

/-- The registry after a run; `none` if one of its steps cannot be taken. -/
def run? (r : Registry) (actions : List Action) : Option Registry := actions.foldlM act? r

end Registry

end GardenAdmin
