import GardenAdmin.Command.Offline

/-!
# Commands that talk to the garden API

Each is an exchange that ends with an outcome. `ConfigureArgs.plan` is what `configure` does between
its two requests: it decides whether there is a second one and what it carries.
-/

namespace GardenAdmin

open Wire

/-- What to do with a fetched garden. -/
inductive Plan where
  | stop (o : Outcome)
  /-- Submit the record; the panel shows what comes of it. -/
  | submit (panel : Panel) (record : Garden)
  deriving DecidableEq, Repr

namespace ConfigureArgs

/-- The form as it is to be submitted: the one from the file, if a file is named, with the edits. -/
def edit (files : Files) (a : ConfigureArgs) (f : Form) : Except CommandError Form := do
  let f ← a.form.elim (.ok f) (readDocument files Form.decoder)
  return a.edits.apply f

/-- The panel with the edited form. That of a local garden stays as it is. -/
def editPanel (files : Files) (a : ConfigureArgs) (p : Panel) : Except CommandError Panel :=
  if p.isLocal then .ok p else (a.edit files p.form).map fun f => { p with form := f }

def plan (files : Files) (a : ConfigureArgs) (g : Garden) : Plan :=
  match a.editPanel files (Panel.load g) with
  | .error e => .stop (.failed e "")
  | .ok panel =>
    match panel.prepare with
    | (panel, none) => .stop (.failed (.notSubmitted a.name) panel.report)
    | (panel, some record) =>
      if a.dryRun then .stop (.printed (prettyLine record.toValue)) else .submit panel record

/-- What comes of a submission, by the answer to it. -/
def conclude (a : ConfigureArgs) (panel : Panel) : Except ClientError Garden → Outcome
  | .ok stored =>
    .printed ("Updated connection settings for " ++ a.name ++ "\n" ++
      Report.detail stored stored.toForm)
  | .error (.server e) => .failed (.rejected a.name) (panel.applyServerError e).report
  | .error e => .failed (.client e) ""

end ConfigureArgs

/-- Fetches a garden, edits its form and submits it. -/
def configure (client : Client) (files : Files) (a : ConfigureArgs) : Exchange Outcome := do
  match ← client.getGarden a.name with
  | .error e => return .failed (.client e) ""
  | .ok g =>
    match a.plan files g with
    | .stop o => return o
    | .submit panel record => return a.conclude panel (← client.updateConfig record)

/-- Creates a garden from the record in a file. -/
def create (client : Client) (files : Files) (path : String) : Exchange Outcome :=
  match readDocument files Garden.decoder path with
  | .error e => return .failed e ""
  | .ok g => return .ofExcept .client (← client.createGarden g) fun stored =>
      "Created garden " ++ stored.name ++ "\n"

/-- Carries out a command through a client. -/
def Command.execute (client : Client) (files : Files) : Command → Exchange Outcome
  | .list => return .ofExcept .client (← client.listGardens) Report.table
  | .show name => return .ofExcept .client (← client.getGarden name) fun g =>
      Report.detail g g.toForm
  | .create file => GardenAdmin.create client files file
  | .delete name => return .ofExcept .client (← client.deleteGarden name) fun _ =>
      "Deleted garden " ++ name ++ "\n"
  | .configure a => GardenAdmin.configure client files a
  | .sync name => return .ofExcept .client (← client.sync name) fun _ =>
      match name with
      | some name => "Sync requested for garden " ++ name ++ "\n"
      | none => "Sync requested for all gardens\n"
  | .watch _ | .check _ | .sanitize _ => return .failed .notRemote ""

end GardenAdmin
