import GardenAdmin.Api.Exchange
import GardenAdmin.Api.Target
import GardenAdmin.Text.Percent

/-!
# HTTP messages

Requests and responses as bytes on a connection that is closed after one exchange. A response body ends
with the connection, at its announced length, or after its last chunk.
-/

namespace GardenAdmin.Message

abbrev Bytes := List UInt8

/-- Where a server listens. -/
structure Address where
  host : String
  port : Nat
  deriving DecidableEq, Repr

/-- The address in a URL of that scheme, with a port for URLs that name none. -/
def address? (scheme : String) (port : Nat) (url : String) : Option Address := do
  let rest ← after? (scheme ++ "://") url
  let (authority, _) := breakAt (fun c => c == '/' || c == '?' || c == '#') rest
  if authority = "" then none
  match authority.splitOn ":" with
  | [host] => return ⟨host, port⟩
  | [host, port] => return ⟨host, ← port.toNat?⟩
  | _ => none

/-- The value of the `Host` header. -/
def Address.header (a : Address) : String := a.host ++ ":" ++ toString a.port

/-- Header lines as bytes, with the empty line behind them. -/
def head (lines : List String) : Bytes :=
  Text.utf8 (String.join (lines.map (· ++ "\r\n")) ++ "\r\n")

/-- A request as bytes. -/
def ofRequest (a : Address) (target : String) (r : Request) : Bytes :=
  let body := (r.body.map Text.utf8).getD []
  head ([r.method.name ++ " " ++ target ++ " HTTP/1.1", "Host: " ++ a.header, "Accept: */*",
      "Connection: close"] ++
    (r.authorization.toList.map ("Authorization: " ++ ·)) ++
    (r.contentType.toList.map ("Content-Type: " ++ ·)) ++
    (if r.body.isSome then ["Content-Length: " ++ toString body.length] else [])) ++ body

/-- The bytes before and behind the first occurrence of `mark`. -/
def cut? (mark : Bytes) : Bytes → Option (Bytes × Bytes)
  | [] => if mark = [] then some ([], []) else none
  | b :: bs =>
    if mark.isPrefixOf (b :: bs) then some ([], (b :: bs).drop mark.length)
    else (cut? mark bs).map fun (front, rest) => (b :: front, rest)

def lineEnd : Bytes := [13, 10]

/-- Bytes as text; none for bytes that are no text. -/
def text (bs : Bytes) : String := (String.fromUTF8? ⟨bs.toArray⟩).getD ""

/-- A number in hexadecimal digits, up to the first byte that is none. -/
def hexNumber (bs : Bytes) : Nat :=
  (bs.map fun b => (digit? b.toNat)).takeWhile (·.isSome) |>.foldl (fun n d => 16 * n + d.getD 0) 0
where
  digit? (n : Nat) : Option Nat :=
    if 48 ≤ n ∧ n ≤ 57 then some (n - 48)
    else if 97 ≤ n ∧ n ≤ 102 then some (n - 87)
    else if 65 ≤ n ∧ n ≤ 70 then some (n - 55)
    else none

/-- The contents of up to `limit` chunks. -/
def chunks : (limit : Nat) → Bytes → Bytes
  | 0, _ => []
  | limit + 1, bs =>
    match cut? lineEnd bs with
    | none => []
    | some (size, rest) =>
      match hexNumber size with
      | 0 => []
      | n => rest.take n ++ chunks limit (rest.drop (n + lineEnd.length))

/-- Header lines as lower-case names and values. -/
def fields (lines : List String) : List (String × String) :=
  lines.map fun line =>
    let (name, value) := breakAt (· == ':') line
    (name.toLower, ((after? ":" value).getD "").trimAscii.toString)

/-- A response from all the bytes of its connection. -/
def toResponse? (bs : Bytes) : Option Response := do
  let (front, rest) ← cut? (lineEnd ++ lineEnd) bs
  match (text front).splitOn "\r\n" with
  | [] => none
  | first :: lines =>
    let status ← (← (first.splitOn " ")[1]?).toNat?
    let fs := fields lines
    let body :=
      if (fs.lookup "transfer-encoding").any (·.toLower == "chunked") then chunks rest.length rest
      else ((fs.lookup "content-length").bind (·.toNat?)).elim rest rest.take
    return ⟨status, text body⟩

end GardenAdmin.Message
