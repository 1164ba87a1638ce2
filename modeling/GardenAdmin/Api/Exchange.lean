import GardenAdmin.Settings.Basic

/-!
# Exchanges with a server

An `Exchange` is a computation that may send requests and goes on with what is answered.
`Exchange.run` carries it out against a server whose replies are laid down beforehand.
-/

namespace GardenAdmin

inductive Method where
  | get
  | post
  | patch
  | delete
  deriving DecidableEq, Repr

def Method.name : Method → String
  | .get => "GET"
  | .post => "POST"
  | .patch => "PATCH"
  | .delete => "DELETE"

structure Request where
  method : Method
  url : String
  authorization : Option String := none
  /-- A JSON text. -/
  body : Option String := none
  deriving DecidableEq, Repr

/-- What the body is declared as. -/
def Request.contentType (r : Request) : Option String := r.body.map fun _ => "application/json"

structure Response where
  status : Nat
  body : String
  deriving DecidableEq, Repr

def Response.isSuccess (r : Response) : Bool := 200 ≤ r.status && r.status < 300

/-- A server with the replies it is going to give. -/
inductive Server where
  | unreachable
  /-- The replies are given in turn, and after the last one empty failures. -/
  | replying (replies : List Response)
  deriving DecidableEq, Repr

/-- The reply to one request, and the server after it. -/
def Server.reply? : Server → Option (Response × Server)
  | .unreachable => none
  | .replying [] => some (⟨500, ""⟩, .replying [])
  | .replying (r :: rs) => some (r, .replying rs)

inductive Exchange (α : Type) where
  | done (a : α)
  /-- Sends a request; where no response comes back, it goes on with `none`. -/
  | send (r : Request) (next : Option Response → Exchange α)

namespace Exchange

variable {α β : Type}

def bind (f : α → Exchange β) : Exchange α → Exchange β
  | .done a => f a
  | .send r next => .send r fun answer => (next answer).bind f

instance : Monad Exchange where
  pure := .done
  bind x f := x.bind f

/-- Sends one request. -/
def request (r : Request) : Exchange (Option Response) := .send r .done

/-- The result against a server, with the requests the server received. -/
def run : Exchange α → Server → α × List Request
  | .done a, _ => (a, [])
  | .send r next, server =>
    match server.reply? with
    | none => (next none).run server
    | some (response, server) =>
      let (a, rs) := (next (some response)).run server
      (a, r :: rs)

end Exchange

end GardenAdmin
