import GardenAdmin.Events.Event
import GardenAdmin.Feedback.ServerError
import GardenAdmin.Garden.Form
import GardenAdmin.Garden.Validation

/-!
# The garden panel

One garden on display with its form and the feedback on it. `prepare` makes the record to submit or
says why there is none; `handle` follows the events of the displayed garden.
-/

namespace GardenAdmin

open Wire

structure Panel where
  garden : Garden
  form : Form
  alerts : List Alert
  fieldErrors : ConfigErrors
  deriving DecidableEq, Repr

namespace Panel

/-- The panel of a record, with the record's own form and no feedback. -/
def load (g : Garden) : Panel := ⟨g, g.toForm, [], .empty⟩

def isLocal (p : Panel) : Bool := p.garden.isLocal

/-- Edits the form; `none` for a local garden, which refuses. -/
def edit? (p : Panel) (f : Form → Form) : Option Panel :=
  if p.isLocal then none else some { p with form := f p.form }

/-- Adds errors of connection settings, with a warning for every entry point. -/
def showConfigErrors (p : Panel) (errors : ConfigErrors) : Panel :=
  { p with alerts := p.alerts ++ errors.alerts, fieldErrors := p.fieldErrors.merge errors }

/-- The warning on a local garden. -/
def localWarning : Alert :=
  ⟨.warning, "Connection settings of the local garden cannot be edited."⟩

/-- The warning that the server removed the garden of that name. -/
def removalWarning (name : String) : Alert :=
  ⟨.warning, "Garden " ++ name ++ " was removed on the server."⟩

/-- Why a form is not submitted. -/
inductive Refusal where
  | isLocal
  | form (e : FormError)
  | invalid (errors : ConfigErrors)
  deriving DecidableEq, Repr

/-- The record to submit for a form of a garden. -/
def submission (g : Garden) (f : Form) : Except Refusal Garden :=
  if g.isLocal then .error .isLocal
  else
    match f.toGarden? g with
    | .error e => .error (.form e)
    | .ok record =>
      match (record.connectionParams.getD {}).validate with
      | .ok checked => .ok { record with connectionParams := some checked }
      | .error errors => .error (.invalid errors)

/-- The panel without feedback. -/
def clearFeedback (p : Panel) : Panel := { p with alerts := [], fieldErrors := .empty }

/-- The panel with the feedback on a refusal. -/
def showRefusal (p : Panel) : Refusal → Panel
  | .isLocal => { p with alerts := p.alerts ++ [localWarning] }
  | .form e => { p with alerts := p.alerts ++ [⟨.warning, e.message⟩] }
  | .invalid errors => p.showConfigErrors errors

/-- Turns the form into the record to submit. Earlier feedback makes way for what this finds. -/
def prepare (p : Panel) : Panel × Option Garden :=
  match submission p.garden p.form with
  | .ok record => (p.clearFeedback, some record)
  | .error r => (p.clearFeedback.showRefusal r, none)

/-- Shows a failed response. -/
def applyServerError (p : Panel) : ServerError → Panel
  | .config errors => p.showConfigErrors errors
  | .generic status message =>
    { p with alerts := p.alerts ++ (ServerError.generic status message).alerts }

/-- Follows an event. `none` means that it does not concern the panel, which stays as it is. -/
def handle? (p : Panel) (e : Event) : Option Panel :=
  if p.garden.id.isNone || e.payloadId? ≠ p.garden.id then none
  else
    match e.kind with
    | .gardenUpdated => (Decoder.ofValue Garden.decoder e.payload).toOption.map load
    | .gardenRemoved => some { p with alerts := p.alerts ++ [removalWarning p.garden.name] }
    | _ => none

/-- Follows an event and tells whether it concerned the panel. -/
def handle (p : Panel) (e : Event) : Panel × Bool :=
  match p.handle? e with
  | some q => (q, true)
  | none => (p, false)

/-- Takes the alert at that place away. -/
def dismiss (p : Panel) (index : Nat) : Panel × Option Alert :=
  match p.alerts[index]? with
  | some a => ({ p with alerts := p.alerts.eraseIdx index }, some a)
  | none => (p, none)

def clearAlerts (p : Panel) : Panel := { p with alerts := [] }

end Panel

end GardenAdmin
