import GardenAdmin.Garden.Form

/-!
# Edits of a form

The changes that the options of one command ask for. An entry point is created when one of its options
is used and is otherwise left alone; header rows are cleared before others are appended.
-/

namespace GardenAdmin

structure Edits where
  connectionType : Option ConnectionType := none
  httpHost : Option String := none
  httpPort : Option Int := none
  stompHost : Option String := none
  stompPort : Option Int := none
  /-- The rows to append. -/
  stompHeaders : List HeaderRow := []
  clearStompHeaders : Bool := false
  deriving DecidableEq, Repr

namespace Edits

def touchesHttp (e : Edits) : Bool := e.httpHost.isSome || e.httpPort.isSome

def touchesStomp (e : Edits) : Bool :=
  e.stompHost.isSome || e.stompPort.isSome || e.clearStompHeaders || !e.stompHeaders.isEmpty

def editHttp (e : Edits) (h : HttpParams) : HttpParams :=
  { h with host := e.httpHost <|> h.host, port := e.httpPort <|> h.port }

def editStomp (e : Edits) (s : StompForm) : StompForm :=
  { s with
    host := e.stompHost <|> s.host
    port := e.stompPort <|> s.port
    headers := (if e.clearStompHeaders then [] else s.headers) ++ e.stompHeaders }

def apply (e : Edits) (f : Form) : Form where
  connectionType := e.connectionType <|> f.connectionType
  http := if e.touchesHttp then some (e.editHttp (f.http.getD {})) else f.http
  stomp := if e.touchesStomp then some (e.editStomp (f.stomp.getD {})) else f.stomp

/-- The edits `a` and then `b`, at one go. -/
def andThen (a b : Edits) : Edits where
  connectionType := b.connectionType <|> a.connectionType
  httpHost := b.httpHost <|> a.httpHost
  httpPort := b.httpPort <|> a.httpPort
  stompHost := b.stompHost <|> a.stompHost
  stompPort := b.stompPort <|> a.stompPort
  stompHeaders := if b.clearStompHeaders then b.stompHeaders else a.stompHeaders ++ b.stompHeaders
  clearStompHeaders := a.clearStompHeaders || b.clearStompHeaders

end Edits

end GardenAdmin
