import GardenAdmin.Command.Basic
import GardenAdmin.Events.Frame
import GardenAdmin.Report

/-!
# Watching events

`watch` prints the events of one garden, or of all, as they arrive. When its link is closed it connects
again; only the first connection has to succeed.
-/

namespace GardenAdmin

/-- How the server meets one attempt to connect. -/
inductive Session where
  | refuse
  /-- The handshake succeeds and these frames follow. -/
  | serve (frames : List Frame)
  deriving DecidableEq, Repr

/-- A watch under way. -/
structure Watch where
  host : Host
  /-- The request target of every attempt that reached the server, `none` where it refused. -/
  connects : List (Option String)

namespace Watch

/-- How many messages may wait on a link. -/
def capacity : Nat := 256

/-- A watch before its first attempt. -/
def start (url : String) : Watch :=
  let host : Host := { registry := .fresh (redactUrl url) capacity }
  ⟨(host.register "watch" { tag := "watch" }).2, []⟩

/-- An attempt to connect; a new call is made for it. -/
def attempt (w : Watch) : Watch := { w with host := (w.host.start .connect).2.rest }

/-- One session, from the attempt to connect to its last frame. -/
def session (w : Watch) (target : String) : Session → Watch
  | .refuse =>
    let w := { w with host := w.host.act (.refuse true), connects := w.connects ++ [none] }
    w.attempt
  | .serve frames =>
    let w := { w with host := w.host.act (.refuse false), connects := w.connects ++ [some target] }
    { w.attempt with host := w.attempt.host.feed frames }

/-- The link ends. -/
def lose (w : Watch) : Watch := { w with host := (w.host.act .disconnect).rest }

/-- The sessions after the one that is open; the link is lost before each. -/
def sessions (w : Watch) (target : String) : List Session → Watch
  | [] => w
  | s :: rest => (w.lose.session target s).sessions target rest

/-- It is interrupted. -/
def stop (w : Watch) : Watch := { w with host := (w.host.start .close).2.rest }

/-- The events that arrived, in that order. -/
def events (w : Watch) : List Event :=
  w.host.registry.links.flatMap fun l => l.deliveries.map (·.event)

/-- What is printed for an event: its line, if it is about the garden of that name or no name is
given. -/
def line (name : Option String) (e : Event) : String :=
  if name.all e.concerns then Report.event e else ""

/-- What is printed altogether. -/
def output (w : Watch) (name : Option String) : String := String.join (w.events.map (line name))

/-- Watches a server that meets the attempts to connect in this way and is out of reach after the last.
The watch is interrupted at the end of the last session. -/
def run (url : String) (script : List Session) (name : Option String) :
    Outcome × List (Option String) :=
  match websocketTarget? url, script with
  | some target, s :: rest =>
    let w := (start url).session target s
    match w.host.failure? 0 with
    | some e => (.failed (.connect e) "", w.connects)
    | none =>
      let w := (w.sessions target rest).stop
      (.printed (w.output name), w.connects)
  | _, _ => (.failed (.connect ⟨redactUrl url, "connection refused"⟩) "", [])

end Watch

/-- Watches the events that the settings point at. -/
def watch (s : Settings) (script : List Session) (name : Option String) :
    Outcome × List (Option String) :=
  match s.eventsUrl with
  | .error e => (.failed (.settings e) "", [])
  | .ok url => Watch.run url script name

end GardenAdmin
