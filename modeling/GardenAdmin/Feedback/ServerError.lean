import GardenAdmin.Feedback.ConfigErrors
import GardenAdmin.Json.Reader
import GardenAdmin.Text.Blank

/-!
# Failed responses

A failed response is either a rejection of connection settings, if its message is an object, or a
text that holds one, with errors under `connection_params`; or it is a plain failure with the best
text there is. Every failed response has something to show.
-/

namespace GardenAdmin

open Json

inductive ServerError where
  /-- The server rejected connection settings. -/
  | config (errors : ConfigErrors)
  | generic (status : Nat) (message : String)
  deriving DecidableEq, Repr

namespace ServerError

/-- Shown when a failed response carries no text. -/
def fallbackMessage : String :=
  "An error occurred on the server. Please check the server logs for more details."

/-- A plain failure; an empty message is replaced by the fallback. -/
def plain (status : Nat) (message : String) : ServerError :=
  .generic status (if message = "" then fallbackMessage else message)

/-- The message of an error document: its `message`, or else its `error`. -/
def messageMember? (doc : Value) : Option Value := doc.get? "message" <|> doc.get? "error"

/-- The object a message is, or that its text holds. -/
def structured? : Value → Option Value
  | .object ms => some (.object ms)
  | .string s => (Value.parse? s).filter (·.members?.isSome)
  | _ => none

/-- The rejected settings in a message. -/
def rejection? (message : Value) : Option ConfigErrors := do
  let m ← structured? message
  let params ← m.get? "connection_params"
  (ConfigErrors.ofValue? params).filter (!·.isEmpty)

/-- Classifies a failed response. -/
def ofResponse (status : Nat) (body : String) : ServerError :=
  match Value.parse? body with
  | none => plain status (Text.trim body)
  | some doc =>
    match (messageMember? doc).bind rejection? with
    | some errors => .config errors
    | none => plain status (((messageMember? doc).bind (·.text?)).getD "")

/-- The one-line description. -/
def display : ServerError → String
  | .config _ => "server rejected the connection configuration"
  | .generic status message => s!"server error ({status}): " ++ message

/-- The banners to show. -/
def alerts : ServerError → List Alert
  | .config errors => errors.alerts
  | .generic _ message => [⟨.danger, message⟩]

end ServerError

end GardenAdmin
