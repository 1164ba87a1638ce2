import GardenAdmin.Command.Basic
import GardenAdmin.Garden.Repair
import GardenAdmin.Json.Printer
import GardenAdmin.Panel
import GardenAdmin.Report

/-!
# Commands on files

`check` submits a form for a garden made up for it, without a server; `sanitize` repairs a record.
-/

namespace GardenAdmin

/-- What is between the slashes of a path, without the segments that name no file. -/
def pathSegments (path : String) : List String :=
  (path.splitOn "/").filter fun s => s ≠ "" ∧ s ≠ "."

/-- A file name up to its last dot, but for a dot in front. -/
def stem (name : String) : String :=
  match (name.toList.reverse.dropWhile (· ≠ '.')).drop 1 with
  | [] => name
  | front => .ofList front.reverse

/-- The name of a file without its extension; `none` for a path that names no file. -/
def fileStem? (path : String) : Option String :=
  ((pathSegments path).getLast?.filter (· ≠ "..")).map stem

/-- A JSON text on lines of its own. -/
def prettyLine (v : Json.Value) : String := v.pretty ++ "\n"

/-- What a panel has to say about its last attempt. -/
def Panel.report (p : Panel) : String := Report.alerts p.alerts ++ Report.fieldErrors p.fieldErrors

/-- The garden that the form in a file is checked with. -/
def checkedGarden (path : String) (f : Form) : Garden :=
  let name := (fileStem? path).getD "form"
  { id := some ("check-" ++ name), name, connectionType := f.connectionType }

/-- The panel of the garden that the form in a file is checked with, showing that form. -/
def checkPanel (path : String) (f : Form) : Panel :=
  let panel := Panel.load (checkedGarden path f)
  (panel.edit? fun _ => f).getD panel

/-- Whether a form could be submitted, and with which parameters. -/
def checkForm (path : String) (f : Form) : Outcome :=
  match (checkPanel path f).prepare with
  | (_, some record) =>
    .printed ("Connection settings are valid.\n" ++
      prettyLine ((record.connectionParams.map (·.toValue)).getD .null))
  | (panel, none) => .failed (.invalidForm path) panel.report

def check (files : Files) (path : String) : Outcome :=
  match readDocument files Form.decoder path with
  | .ok f => checkForm path f
  | .error e => .failed e ""

/-- The notes on a repair, one to a line, and the repaired record. -/
def Repaired.report (r : Repaired) : String :=
  Report.unlines (r.notes.map ("[info] " ++ ·)) ++ prettyLine r.garden.toValue

def sanitize (files : Files) (path : String) : Outcome :=
  .ofExcept id (readDocument files Garden.decoder path) fun g => g.repair.report

end GardenAdmin
