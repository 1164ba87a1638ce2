import GardenAdmin.Api.Client
import GardenAdmin.Command.Edits
import GardenAdmin.Events.Link
import GardenAdmin.Settings.Layers

/-!
# Commands

What the program can be asked to do, and what comes of it: the text it prints and possibly an error.
-/

namespace GardenAdmin

open Wire

/-- How to configure a garden. -/
structure ConfigureArgs where
  name : String
  /-- The file of a form that replaces the garden's before the edits. -/
  form : Option String := none
  edits : Edits := {}
  /-- Print the record instead of submitting it. -/
  dryRun : Bool := false
  deriving DecidableEq, Repr

inductive Command where
  | list
  | show (name : String)
  /-- Create a garden from a record file. -/
  | create (file : String)
  | delete (name : String)
  | configure (args : ConfigureArgs)
  /-- Ask one garden to sync, or all of them. -/
  | sync (name : Option String)
  /-- Print the events of one garden, or of all. -/
  | watch (name : Option String)
  /-- Check a form file. -/
  | check (file : String)
  /-- Repair a record file. -/
  | sanitize (file : String)
  deriving DecidableEq, Repr

inductive CommandError where
  | client (e : ClientError)
  | settings (e : SettingsError)
  | connect (e : ConnectError)
  | unreadableFile (path : String)
  | undecodableFile (path : String) (cause : DecodeError)
  /-- There is no record to submit for the garden of that name. -/
  | notSubmitted (name : String)
  /-- The server rejected the settings of the garden of that name. -/
  | rejected (name : String)
  | invalidForm (path : String)
  /-- The command was handed to the client and needs none. -/
  | notRemote
  deriving DecidableEq, Repr

def CommandError.message : CommandError → String
  | .client e => e.message
  | .settings e => e.message
  | .connect e => e.message
  | .unreadableFile path => "Failed to read " ++ path
  | .undecodableFile path _ => "Failed to parse " ++ path
  | .notSubmitted name => "connection settings for " ++ name ++ " were not submitted"
  | .rejected name => "server rejected connection settings for " ++ name
  | .invalidForm path => path ++ " is not a valid connection form"
  | .notRemote => "this command does not talk to the garden API"

/-- What comes of a command. -/
structure Outcome where
  output : String := ""
  failure : Option CommandError := none
  deriving DecidableEq, Repr

namespace Outcome

/-- A text was printed and all went well. -/
def printed (text : String) : Outcome := { output := text }

/-- It failed, possibly after printing something. -/
def failed (e : CommandError) (text : String) : Outcome := ⟨text, some e⟩

/-- The outcome for a value, or that of its failure. -/
def ofExcept {ε α : Type} (error : ε → CommandError) (x : Except ε α) (print : α → String) :
    Outcome :=
  match x with
  | .ok a => printed (print a)
  | .error e => failed (error e) ""

end Outcome

/-- Reads a document from a file. -/
def readDocument {α : Type} (files : Files) (read : Decoder α) (path : String) :
    Except CommandError α :=
  match files path with
  | .text content =>
    match Decoder.text read content with
    | .ok a => .ok a
    | .error cause => .error (.undecodableFile path cause)
  | _ => .error (.unreadableFile path)

end GardenAdmin
