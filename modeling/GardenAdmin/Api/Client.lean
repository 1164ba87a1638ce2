import GardenAdmin.Api.Exchange
import GardenAdmin.Api.Target
import GardenAdmin.Feedback.ServerError
import GardenAdmin.Garden.Record
import GardenAdmin.Text.Percent

/-!
# The garden API

A `Client` knows where the API is and the token to show. Every operation is one request. A response
with a failure status is a `ServerError`; one with a success status has to decode to what the operation
returns.
-/

namespace GardenAdmin

open Json Wire

inductive ClientError where
  /-- No response came back, or one that does not decode. -/
  | http
  | server (e : ServerError)
  | emptyBaseUrl
  /-- The token holds characters that no header may hold. -/
  | invalidToken
  deriving DecidableEq, Repr

def ClientError.message : ClientError → String
  | .http => "HTTP request failed"
  | .server e => e.display
  | .emptyBaseUrl => "Configuration error: base_url is empty"
  | .invalidToken => "Configuration error: Invalid token format"

/-- Characters that a header may hold. -/
def isHeaderChar (c : Char) : Bool := c == '\t' || (0x20 ≤ c.val && c.val ≠ 0x7f)

structure Client where
  /-- Has no slash at its end. -/
  baseUrl : String
  token : Option String
  deriving DecidableEq, Repr

namespace Client

/-- The client for some settings. An empty token is none. -/
def ofSettings (s : ApiSettings) : Except ClientError Client :=
  if s.baseUrl = "" then .error .emptyBaseUrl
  else if s.activeToken?.any fun t => !t.toList.all isHeaderChar then .error .invalidToken
  else .ok ⟨trimSlashes s.baseUrl, s.activeToken?⟩

def apiUrl (c : Client) (path : String) : String := c.baseUrl ++ "/api/v1" ++ path

/-- The URL of all gardens. -/
def gardensUrl (c : Client) : String := c.apiUrl "/gardens/"

/-- The URL of the garden of that name. -/
def gardenUrl (c : Client) (name : String) : String :=
  c.apiUrl ("/gardens/" ++ Text.encodeSegment name)

/-- The value of the authorization header. Blanks at its end do not travel. -/
def authorization (c : Client) : Option String :=
  c.token.map fun t =>
    .ofList (("Bearer " ++ t).toList.reverse.dropWhile fun c => c == ' ' || c == '\t').reverse

/-- Sends a request and sorts out the response. A URL of another scheme leads nowhere. -/
def call (c : Client) (method : Method) (url : String) (body : Option Value) :
    Exchange (Except ClientError Response) :=
  if (httpTarget? url).isNone then return .error .http
  else do
    match ← Exchange.request ⟨method, url, c.authorization, body.map (·.compact)⟩ with
    | none => return .error .http
    | some response =>
      if response.isSuccess then return .ok response
      else return .error (.server (.ofResponse response.status response.body))

/-- Reads the body of a response. -/
def decoded {α : Type} (read : Decoder α) (response : Except ClientError Response) :
    Except ClientError α := do
  match Decoder.text read (← response).body with
  | .ok a => .ok a
  | .error _ => .error .http

/-- The body that asks for one operation on a garden. -/
def operation (name : String) (value : Value) : Value :=
  .object [("operations", .array [.object
    [("operation", .string name), ("path", .string ""), ("value", value)]])]

def listGardens (c : Client) : Exchange (Except ClientError (List Garden)) :=
  return decoded (Decoder.list Garden.decoder) (← c.call .get c.gardensUrl none)

def getGarden (c : Client) (name : String) : Exchange (Except ClientError Garden) :=
  return decoded Garden.decoder (← c.call .get (c.gardenUrl name) none)

def createGarden (c : Client) (g : Garden) : Exchange (Except ClientError Garden) :=
  return decoded Garden.decoder (← c.call .post c.gardensUrl (some g.toValue))

def deleteGarden (c : Client) (name : String) : Exchange (Except ClientError Unit) :=
  return Except.map (fun _ => ()) (← c.call .delete (c.gardenUrl name) none)

/-- Submits a garden; the answer is the record as the server keeps it. -/
def updateConfig (c : Client) (g : Garden) : Exchange (Except ClientError Garden) :=
  return decoded Garden.decoder
    (← c.call .patch (c.gardenUrl g.name) (some (operation "config" g.toValue)))

/-- Asks the garden of that name to sync, or all gardens. -/
def sync (c : Client) (name : Option String) : Exchange (Except ClientError Unit) :=
  return Except.map (fun _ => ())
    (← c.call .patch (name.elim c.gardensUrl c.gardenUrl) (some (operation "sync" (.string ""))))

end Client

end GardenAdmin
