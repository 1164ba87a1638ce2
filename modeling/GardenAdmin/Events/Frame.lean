import GardenAdmin.Events.Host

/-!
# Frames of a websocket

The texts of a websocket become the messages of a link, in order, until the socket is closed or
fails. Frames of other kinds pass unnoticed. `Feed.act?` is one step of a registry or of what
forwards the frames to it, and a run is any sequence of such steps; `Host.feed` forwards all frames
while the reader takes what arrives.
-/

namespace GardenAdmin

inductive Frame where
  | text (s : String)
  | binary
  | ping
  | pong
  | close
  /-- The socket fails. -/
  | failure
  deriving DecidableEq, Repr

namespace Frame

/-- No message comes after such a frame. -/
def isLast : Frame → Bool
  | .close | .failure => true
  | .text _ | .binary | .ping | .pong => false

/-- The message a frame carries. -/
def message? : Frame → Option String
  | .text s => some s
  | _ => none

/-- The messages of a sequence of frames. -/
def messages (frames : List Frame) : List String :=
  (frames.takeWhile (!·.isLast)).filterMap message?

end Frame

/-- What forwards the frames of a socket to its link. -/
inductive Forwarder where
  /-- Take the next of these frames, after which the socket ends. -/
  | reading (frames : List Frame)
  /-- Go on with these frames when the link has taken the message. -/
  | sending (p : PushId) (frames : List Frame)
  | ended
  deriving DecidableEq, Repr

/-- The frames still to come. -/
def Forwarder.left : Forwarder → List Frame
  | .reading frames | .sending _ frames => frames
  | .ended => []

/-- A registry whose links are fed from sockets, each from its own. The forwarder is that of the
latest link; the reader of an earlier one has finished or was told to stop. -/
structure Feed where
  registry : Registry
  forwarder : Forwarder := .ended
  deriving DecidableEq, Repr

/-- One step of a run. -/
inductive FeedAction where
  /-- Something happens at the registry. -/
  | registry (a : Action)
  /-- The forwarder goes on. -/
  | forward
  /-- The forwarder notices that nothing receives any more. -/
  | hangUp
  deriving DecidableEq, Repr

/-- It is the server that does this. -/
def Action.isServers : Action → Bool
  | .push _ | .disconnect => true
  | _ => false

namespace Feed

/-- A registry to which nothing has happened yet. -/
def fresh (url : String) (capacity : Nat) : Feed := ⟨.fresh url capacity, .ended⟩

/-- Forwarding ends, and the link with it. -/
def stop (f : Feed) : Feed := ⟨{ f.registry with current := none }, .ended⟩

/-- The next step of the forwarder. It waits where a message finds no room, and ends with the socket
or when its message was lost. -/
def forward? (f : Feed) : Option Feed :=
  match f.forwarder with
  | .reading [] => some f.stop
  | .reading (frame :: frames) =>
    if frame.isLast then some f.stop
    else
      match frame.message? with
      | some message => some ⟨f.registry.push message, .sending f.registry.nextPush frames⟩
      | none => some ⟨f.registry, .reading frames⟩
  | .sending p frames =>
    if f.registry.waiting.any (·.id = p) then none
    else if p ∈ f.registry.lost then some f.stop
    else some ⟨f.registry, .reading frames⟩
  | .ended => none

/-- Between two frames, the forwarder ends when the reader has. -/
def hangUp? (f : Feed) : Option Feed :=
  match f.forwarder with
  | .reading _ => if f.registry.receiver?.isNone then some f.stop else none
  | .sending _ _ | .ended => none

/-- The registry goes on. A link that was opened is fed from a new socket. -/
def follow (sockets : LinkId → List Frame) (f : Feed) (r : Registry) : Feed :=
  if r.links.length = f.registry.links.length then ⟨r, f.forwarder⟩
  else ⟨r, .reading (sockets f.registry.links.length)⟩

/-- One step, where `sockets` are the frames that come from the socket of each link. What the server
does is only done by forwarding. -/
def act? (sockets : LinkId → List Frame) (f : Feed) : FeedAction → Option Feed
  | .registry a => if a.isServers then none else (f.registry.act? a).map (f.follow sockets)
  | .forward => f.forward?
  | .hangUp => f.hangUp?

/-- The feed after a run; `none` if one of its steps cannot be taken. -/
def run? (sockets : LinkId → List Frame) (f : Feed) (actions : List FeedAction) : Option Feed :=
  actions.foldlM (act? sockets) f

end Feed

namespace Host

/-- Sends all messages of a socket, and ends the link if the socket ended. -/
def feed (h : Host) (frames : List Frame) : Host :=
  let h := (Frame.messages frames).foldl (fun h message => (h.push message).2) h
  (if frames.any (·.isLast) then h.act .disconnect else h).rest

end Host

end GardenAdmin
