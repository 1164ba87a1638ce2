import GardenAdmin.Events.Callback

/-!
# Links

A link carries messages from the server to the reader that dispatches them. The reader takes the
messages in the order the link accepted them. When the server's side is gone it takes what is left,
reports the end and finishes.
-/

namespace GardenAdmin

/-- What the registry says about its link. -/
inductive LinkState where
  /-- No link was ever asked for. -/
  | noConnection
  | connecting
  | open
  | closed
  deriving DecidableEq, Repr

def LinkState.display : LinkState → String
  | .noConnection => "no connection"
  | .connecting => "connecting"
  | .open => "open"
  | .closed => "closed"

/-- What the reader of a link is about to do. -/
inductive ReaderPhase where
  /-- There is no reader yet. -/
  | unstarted
  /-- Take the next message, or find that there will be none. -/
  | receiving
  /-- Hand an event to the callbacks. -/
  | dispatching (e : Event)
  /-- Report the end of the link. -/
  | ending
  | finished
  deriving DecidableEq, Repr

/-- The reader was started and goes on. -/
def ReaderPhase.isRunning : ReaderPhase → Bool
  | .receiving | .dispatching _ | .ending => true
  | .unstarted | .finished => false

structure Link where
  /-- Every message the link accepted, oldest first. -/
  accepted : List String := []
  /-- How many of them the reader took. -/
  taken : Nat := 0
  reader : ReaderPhase := .unstarted
  /-- The reader was told to stop. -/
  aborted : Bool := false
  /-- What the reader handed to the callbacks, oldest first. -/
  deliveries : List Delivery := []
  deriving DecidableEq, Repr

namespace Link

def isRunning (l : Link) : Bool := l.reader.isRunning

/-- The messages that wait for the reader. -/
def inbox (l : Link) : List String := l.accepted.drop l.taken

end Link

/-- Why a link could not be opened. -/
structure ConnectError where
  url : String
  reason : String
  deriving DecidableEq, Repr

namespace ConnectError

/-- The error without its reason. -/
def summary (e : ConnectError) : String := "Failed to open event stream at " ++ e.url

def message (e : ConnectError) : String := e.summary ++ ": " ++ e.reason

end ConnectError

end GardenAdmin
