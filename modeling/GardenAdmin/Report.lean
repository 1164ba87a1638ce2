import GardenAdmin.Events.Event
import GardenAdmin.Feedback.ConfigErrors
import GardenAdmin.Garden.Form
import GardenAdmin.Text.Columns

/-!
# Reports

The texts the commands print: the table of gardens, the details of one, an event, field errors and
alerts. Every text is a list of lines. Secrets are not among the details: of a password only its
presence shows, of keys nothing.
-/

namespace GardenAdmin.Report

/-- Lines as one text, each ended by a line feed. -/
def unlines (lines : List String) : String := String.join (lines.map (· ++ "\n"))

/-- What stands for a value that is not there. -/
def dash : String := "-"

def orDash (s : Option String) : String := s.getD dash

def typeName (g : Garden) : String := (g.connectionType.map (·.name)).getD dash

def portText (port : Option Int) : String := (port.map toString).getD dash

def yesNo : Option Bool → String
  | some true => "yes"
  | some false => "no"
  | none => dash

/-! ## The table of gardens -/

/-- The least width of the name cell, and the greatest. -/
def nameWidth : Nat := 24
def typeWidth : Nat := 8
def statusWidth : Nat := 12
def idWidth : Nat := 24

/-- A row of cells, each padded to its width. -/
def row (name type status id : String) : String :=
  Text.pad nameWidth name ++ " " ++ Text.pad typeWidth type ++ " " ++ Text.pad statusWidth status ++
    " " ++ Text.pad idWidth id

def heading : String := row "NAME" "TYPE" "STATUS" "ID"

/-- The row of a garden. A long name is cut to its column. -/
def gardenRow (g : Garden) : String :=
  row (Text.truncate g.name nameWidth) (typeName g) (orDash g.status) (orDash g.id)

def tableLines (gs : List Garden) : List String :=
  if gs.isEmpty then ["No gardens found."]
  else heading :: gs.map gardenRow ++ ["", s!"{gs.length} garden(s)"]

def table (gs : List Garden) : String := unlines (tableLines gs)

/-! ## The details of a garden -/

def httpLines (h : HttpParams) : List String :=
  ["  HTTP:", "    Host:       " ++ orDash h.host, "    Port:       " ++ portText h.port,
   "    URL prefix: " ++ orDash h.urlPrefix, "    SSL:        " ++ yesNo h.ssl,
   "    CA verify:  " ++ yesNo h.caVerify] ++
  (h.caCert.toList.map ("    CA cert:    " ++ ·)) ++
  (h.clientCert.toList.map ("    Client cert: " ++ ·))

def headerLine (r : HeaderRow) : String :=
  "    Header:     " ++ orDash r.key ++ " = " ++ orDash r.value

def stompLines (s : StompForm) : List String :=
  ["  STOMP:", "    Host:       " ++ orDash s.host, "    Port:       " ++ portText s.port,
   "    Send to:    " ++ orDash s.sendDestination,
   "    Subscribe:  " ++ orDash s.subscribeDestination,
   "    Username:   " ++ orDash s.username] ++
  (if s.password.isSome then ["    Password:   ********"] else []) ++
  (s.ssl.toList.map fun ssl => "    SSL:        " ++ yesNo ssl.useSsl) ++
  s.headers.map headerLine

def detailLines (g : Garden) (f : Form) : List String :=
  ["  Name:     " ++ g.name, "  ID:       " ++ orDash g.id, "  Type:     " ++ typeName g,
   "  Status:   " ++ orDash g.status] ++
  (if g.isLocal then ["  (local garden, connection settings are not editable)"] else []) ++
  (f.http.elim [] httpLines) ++ (f.stomp.elim [] stompLines)

def detail (g : Garden) (f : Form) : String := unlines (detailLines g f)

/-! ## Events and feedback -/

/-- The garden an event line names: that of the payload, or else the origin. -/
def eventSubject (e : Event) : String := orDash (e.payloadName? <|> e.garden)

def eventLine (e : Event) : String :=
  Text.pad 24 e.name ++ " " ++ eventSubject e ++ (if e.error = some true then " (error)" else "")

def event (e : Event) : String := unlines [eventLine e]

def alertLine (a : Alert) : String := "[" ++ a.level.tag ++ "] " ++ a.message

def alerts (as : List Alert) : String := unlines (as.map alertLine)

def complaintLine (c : Complaint) : String :=
  if c.field = "" then "  " ++ c.entryPoint ++ ": " ++ c.message
  else "  " ++ c.entryPoint ++ "." ++ c.field ++ ": " ++ c.message

def fieldErrors (e : ConfigErrors) : String := unlines (e.complaints.map complaintLine)

end GardenAdmin.Report
