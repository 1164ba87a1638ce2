import GardenAdmin.Api.Message
import GardenAdmin.Events.Frame

/-!
# Websocket bytes

The frames of a websocket in the bytes of its connection. A text may come in several fragments, with
control frames between them; frames that break the rules count as a failure of the socket.
-/

namespace GardenAdmin.Framing

open Message (Bytes)

/-- A frame as it is sent. -/
structure RawFrame where
  /-- It ends a message. -/
  final : Bool
  opcode : Nat
  payload : Bytes
  deriving DecidableEq, Repr

/-- A number in bytes, the highest first. -/
def number (bs : Bytes) : Nat := bs.foldl (fun n b => 256 * n + b.toNat) 0

/-- The length of the payload behind two bytes of header, and the bytes of payload and beyond. -/
def payload? (size : Nat) (bs : Bytes) : Option (Nat × Bytes) :=
  if size < 126 then some (size, bs)
  else
    let width := if size = 126 then 2 else 8
    if bs.length < width then none else some (number (bs.take width), bs.drop width)

/-- Takes the first frame off the bytes; `none` while it is incomplete. A server does not mask. -/
def take? : Bytes → Option (RawFrame × Bytes)
  | first :: second :: bs => do
    let (length, bs) ← payload? (second.toNat % 128) bs
    if bs.length < length then none
    let opcode := if second.toNat < 128 then first.toNat % 128 else 127
    return (⟨first.toNat ≥ 128, opcode, bs.take length⟩, bs.drop length)
  | _ => none

/-- A message that is still coming in. -/
structure Fragments where
  isText : Bool
  bytes : Bytes

/-- What a frame brings, given the fragments before it: possibly a frame of its own, and the fragments
that wait for more. -/
def assemble (before : Option Fragments) (f : RawFrame) : Option Frame × Option Fragments :=
  let ended (m : Fragments) : Option Frame × Option Fragments :=
    if !f.final then (none, some m)
    else if !m.isText then (some .binary, none)
    else
      match String.fromUTF8? ⟨m.bytes.toArray⟩ with
      | some s => (some (.text s), none)
      | none => (some .failure, none)
  match f.opcode, before with
  | 0, some m => ended { m with bytes := m.bytes ++ f.payload }
  | 1, none => ended ⟨true, f.payload⟩
  | 2, none => ended ⟨false, f.payload⟩
  | 8, _ => (some .close, before)
  | 9, _ => (some .ping, before)
  | 10, _ => (some .pong, before)
  | _, _ => (some .failure, none)

/-- A frame of the client with at most 125 bytes, masked with zeros. -/
def ofClient (opcode : Nat) (payload : Bytes) : Bytes :=
  let payload := payload.take 125
  [UInt8.ofNat (128 + opcode), UInt8.ofNat (128 + payload.length), 0, 0, 0, 0] ++ payload

/-- The answer to a frame, if it needs one. -/
def reply? (f : RawFrame) : Option Bytes :=
  match f.opcode with
  | 8 => some (ofClient 8 f.payload)
  | 9 => some (ofClient 10 f.payload)
  | _ => none

/-- The handshake of a client. -/
def handshake (a : Message.Address) (target : String) : Bytes :=
  Message.head ["GET " ++ target ++ " HTTP/1.1", "Host: " ++ a.header, "Upgrade: websocket",
    "Connection: Upgrade", "Sec-WebSocket-Version: 13",
    "Sec-WebSocket-Key: dGhlIHNhbXBsZSBub25jZQ=="]

end GardenAdmin.Framing
