import GardenAdmin.Api.Message
import GardenAdmin.Events.Framing
import GardenAdmin.Program
import Std.Async.DNS
import Std.Async.TCP

/-!
# The command line program

Files, environment, sockets and terminal. What is read, sent and printed is decided by `Program`,
`Message` and `Framing`.
-/

open GardenAdmin

namespace GardenAdmin.Main

open Std.Async Std.Net

/-- The content of a file. -/
def readFile (path : String) : IO FileContent := do
  try return .text (← IO.FS.readFile path)
  catch
    | .noFileOrDirectory .. => return .missing
    | _ => return .unreadable

/-- Opens a connection. -/
def dial (a : Message.Address) : IO TCP.Socket.Client := do
  let addresses ← (DNS.getAddrInfo a.host (toString a.port)).block
  let some ip := addresses[0]? | throw (IO.userError "host not found")
  let port := a.port.toUInt16
  let client ← TCP.Socket.Client.mk
  (client.connect (match ip with
    | .v4 addr => .v4 ⟨addr, port⟩
    | .v6 addr => .v6 ⟨addr, port⟩)).block
  return client

def sendBytes (c : TCP.Socket.Client) (bytes : Message.Bytes) : IO Unit :=
  (c.send ⟨bytes.toArray⟩).block

/-- More bytes of a connection; none at its end. -/
def receive (c : TCP.Socket.Client) : IO (Option Message.Bytes) := do
  return (← (c.recv? 65536).block).map (·.toList)

/-- All bytes up to the end of a connection. -/
partial def receiveAll (c : TCP.Socket.Client) (before : Array Message.Bytes) : IO Message.Bytes := do
  match ← receive c with
  | some bytes => receiveAll c (before.push bytes)
  | none => return before.toList.flatten

/-- The response to a request; none if it cannot be had. -/
def fetch (r : Request) : IO (Option Response) := do
  let some address := Message.address? "http" 80 r.url | return none
  let some target := httpTarget? r.url | return none
  try
    let client ← dial address
    sendBytes client (Message.ofRequest address target r)
    return Message.toResponse? (← receiveAll client #[])
  catch _ => return none

/-- Carries out an exchange over the network. -/
def carryOut {α : Type} : Exchange α → IO α
  | .done a => return a
  | .send r next => do carryOut (next (← fetch r))

/-- Bytes up to the end of the head of a message, and those behind it. -/
partial def receiveHead (c : TCP.Socket.Client) (before : Message.Bytes) :
    IO (Message.Bytes × Message.Bytes) := do
  match Message.cut? (Message.lineEnd ++ Message.lineEnd) before with
  | some parts => return parts
  | none =>
    match ← receive c with
    | some bytes => receiveHead c (before ++ bytes)
    | none => throw (IO.userError "connection closed")

/-- Opens a websocket. Returns what came in behind the handshake. -/
def openSocket (url : String) : IO (TCP.Socket.Client × Message.Bytes) := do
  let some address := Message.address? "ws" 80 url | throw (IO.userError "unsupported address")
  let some target := websocketTarget? url | throw (IO.userError "unsupported address")
  let client ← dial address
  sendBytes client (Framing.handshake address target)
  let (head, rest) ← receiveHead client []
  unless (Message.text head).startsWith "HTTP/1.1 101" do
    throw (IO.userError "handshake refused")
  return (client, rest)

/-- Prints the events of a websocket until it ends. -/
partial def follow (c : TCP.Socket.Client) (name : Option String) (bytes : Message.Bytes)
    (fragments : Option Framing.Fragments) : IO Unit := do
  match Framing.take? bytes with
  | none =>
    match ← receive c with
    | some more => follow c name (bytes ++ more) fragments
    | none => return
  | some (raw, rest) =>
    if let some reply := Framing.reply? raw then sendBytes c reply
    let (frame, fragments) := Framing.assemble fragments raw
    if let some (.text message) := frame then
      if let .ok e := Event.decode message then
        let out ← IO.getStdout
        out.putStr (Watch.line name e)
        out.flush
    unless frame.any (·.isLast) do follow c name rest fragments

/-- Prints the events of a websocket until it ends in whatever way. -/
def followToEnd (c : TCP.Socket.Client) (name : Option String) (bytes : Message.Bytes) :
    IO Unit := do
  try follow c name bytes none
  catch _ => return

/-- Watches the events under an address; only the first attempt has to succeed. -/
partial def watchAt (url : String) (name : Option String) (isFirst : Bool) : IO UInt32 := do
  try
    let (client, bytes) ← openSocket url
    followToEnd client name bytes
  catch e =>
    IO.eprintln ("Error: " ++ (ConnectError.mk (redactUrl url) (toString e)).message)
    if isFirst then return 1
  IO.sleep 5000
  watchAt url name false

/-- Ends with the failure of a command, if there is one. -/
def finish (failure : Option CommandError) : IO Unit := do
  if let some e := failure then IO.eprintln ("Error: " ++ e.message)

/-- The log line that the program starts. -/
def logStart : Program.StartLine → IO Unit
  | .none => return
  | .text => IO.eprintln (" INFO " ++ Program.name ++ ": Starting trellis CLI version=" ++
      Text.quote Program.version)
  | .json => IO.eprintln (Json.Value.compact (.object
      [("level", .string "INFO"), ("fields", .object [("message", .string "Starting trellis CLI"),
        ("version", .string Program.version)]), ("target", .string Program.name)]))

def run (words : List String) : IO UInt32 := do
  let names := ["HOME", "XDG_CONFIG_HOME", "TRELLIS_CONFIG", "TRELLIS_URL", "TRELLIS_TOKEN",
    "TRELLIS_TIMEOUT_SECS", "TRELLIS_LOG_JSON", "RUST_LOG"]
  let found ← names.mapM fun name => return (name, ← IO.getEnv name)
  let env : Environment := fun name => (found.lookup name).join
  let contents ← (Program.filesRead env words).mapM fun path => return (path, ← readFile path)
  let files : Files := fun path => (contents.lookup path).getD .missing
  match Program.start files env words with
  | .error result =>
    IO.print result.output
    if result.exit = 2 then IO.eprint Program.usage
    finish result.failure
    return result.exit.toUInt32
  | .ok s =>
    logStart s.line
    match s.command, s.settings.eventsUrl with
    | .watch name, .ok url => watchAt url name true
    | command, _ => do
      let result := Program.Result.ofOutcome s.line
        (← carryOut (command.run { settings := s.settings, files }))
      IO.print result.output
      finish result.failure
      return result.exit.toUInt32

end GardenAdmin.Main

def main (words : List String) : IO UInt32 := GardenAdmin.Main.run words
