import GardenAdmin.Feedback.Alert
import GardenAdmin.Json.Printer
import GardenAdmin.SortedMap
import GardenAdmin.Text.Upper

/-!
# Errors in connection settings

Messages by entry point and field, both in name order, the messages of a field in the order they were
added. A nested field has a dotted name. `ofValue?` reads the same shape from a JSON object, and
`toValue` writes it.
-/

namespace GardenAdmin

open Json

abbrev FieldErrors := SortedMap (List String)

/-- The fields of both, the messages of `fields` first in every field. -/
def FieldErrors.merge (fields more : FieldErrors) : FieldErrors :=
  fields.mergeWith (fun there messages => there.getD [] ++ messages) more

structure ConfigErrors where
  byEntryPoint : SortedMap FieldErrors
  deriving DecidableEq, Repr

/-- One message, with the place it is about. -/
structure Complaint where
  entryPoint : String
  field : String
  message : String
  deriving DecidableEq, Repr

namespace ConfigErrors

def empty : ConfigErrors := ⟨.empty⟩

instance : EmptyCollection ConfigErrors := ⟨empty⟩

instance : Inhabited ConfigErrors := ⟨empty⟩

def isEmpty (e : ConfigErrors) : Bool := e.byEntryPoint.isEmpty

/-- Puts messages after those of a field. -/
def append (e : ConfigErrors) (entryPoint field : String) (messages : List String) : ConfigErrors :=
  ⟨e.byEntryPoint.update entryPoint fun fields =>
    (fields.getD .empty).update field fun ms => ms.getD [] ++ messages⟩

def add (e : ConfigErrors) (c : Complaint) : ConfigErrors :=
  e.append c.entryPoint c.field [c.message]

def addAll (e : ConfigErrors) (cs : List Complaint) : ConfigErrors := cs.foldl add e

def ofComplaints (cs : List Complaint) : ConfigErrors := empty.addAll cs

/-- Entry points with errors, in name order. -/
def entryPoints (e : ConfigErrors) : List String := e.byEntryPoint.keys

/-- The fields of an entry point with their messages, in name order. -/
def fields (e : ConfigErrors) (entryPoint : String) : List (String × List String) :=
  ((e.byEntryPoint.get? entryPoint).getD .empty).entries

/-- The messages of a field. -/
def messages (e : ConfigErrors) (entryPoint field : String) : List String :=
  ((e.byEntryPoint.get? entryPoint).bind (·.get? field)).getD []

/-- Every message with its place: by entry point, then field, then age. -/
def complaints (e : ConfigErrors) : List Complaint :=
  e.byEntryPoint.entries.flatMap fun (entryPoint, fields) =>
    fields.entries.flatMap fun (field, messages) =>
      messages.map fun message => ⟨entryPoint, field, message⟩

/-- The errors of both, those of `a` first in every field. -/
def merge (a b : ConfigErrors) : ConfigErrors :=
  ⟨a.byEntryPoint.mergeWith (fun there fields => (there.getD .empty).merge fields) b.byEntryPoint⟩

/-- The warning about the errors of an entry point. -/
def rejectionWarning (entryPoint : String) : Alert :=
  ⟨.warning, "The " ++ Text.upper entryPoint ++
    " connection parameters were rejected; correct the highlighted fields and try again."⟩

/-- One warning per entry point with errors. -/
def alerts (e : ConfigErrors) : List Alert := e.entryPoints.map rejectionWarning

/-! ## From and to JSON -/

/-- The message a value stands for: a text as it is, nothing for `null`, else its compact text. -/
def messageOf? : Value → Option String
  | .null => none
  | .string s => some s
  | v => some v.compact

/-- The name of a field inside the field `path`; the outermost path is empty. -/
def fieldPath (path field : String) : String :=
  if path = "" then field else path ++ "." ++ field

mutual

/-- The messages of the field `path`, in document order: its own, or those nested in it. -/
def fieldMessages (path : String) : Value → List (String × String)
  | .object ms => memberMessages path ms
  | .array xs => xs.filterMap fun x => (messageOf? x).map (path, ·)
  | .null => []
  | .bool b => (messageOf? (.bool b)).toList.map (path, ·)
  | .number n => (messageOf? (.number n)).toList.map (path, ·)
  | .string s => (messageOf? (.string s)).toList.map (path, ·)
termination_by structural v => v

/-- The messages of all fields below `path`. -/
def memberMessages (path : String) : List (String × Value) → List (String × String)
  | [] => []
  | (field, v) :: ms => fieldMessages (fieldPath path field) v ++ memberMessages path ms
termination_by structural ms => ms

end

/-- The complaints about an entry point. One that is no object is itself the message, under the empty
field name. -/
def entryPointComplaints (entryPoint : String) (v : Value) : List Complaint :=
  let found := match v with
    | .object ms => memberMessages "" ms
    | v => (messageOf? v).toList.map ("", ·)
  found.map fun (field, message) => ⟨entryPoint, field, message⟩

/-- The complaints in the members of an error document. -/
def documentComplaints (ms : List (String × Value)) : List Complaint :=
  ms.flatMap fun (entryPoint, v) => entryPointComplaints entryPoint v

/-- Reads errors from an object of entry points. -/
def ofValue? (v : Value) : Option ConfigErrors :=
  v.members?.map fun ms => ofComplaints (documentComplaints ms)

/-- Lists of messages by field by entry point. -/
def toValue (e : ConfigErrors) : Value :=
  .object <| e.byEntryPoint.entries.map fun (entryPoint, fields) =>
    (entryPoint, .object <| fields.entries.map fun (field, messages) =>
      (field, .array (messages.map .string)))

end ConfigErrors

end GardenAdmin
