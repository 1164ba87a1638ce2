import GardenAdmin.Command.Remote
import GardenAdmin.Command.Watch

/-!
# Running a command

Commands on files and `watch` run by themselves; every other command runs through a client, which it
needs before anything else.
-/

namespace GardenAdmin

/-- What a command finds around it. -/
structure Surroundings where
  settings : Settings
  files : Files
  /-- How the event stream meets attempts to connect. -/
  sessions : List Session := []

def Command.run (s : Surroundings) : Command → Exchange Outcome
  | .check file => return GardenAdmin.check s.files file
  | .sanitize file => return GardenAdmin.sanitize s.files file
  | .watch name => return (GardenAdmin.watch s.settings s.sessions name).1
  | c =>
    match Client.ofSettings s.settings.api with
    | .ok client => c.execute client s.files
    | .error e => return .failed (.client e) ""

/-- Carries out a command through a client in any case. -/
def Command.runDirect (s : Surroundings) (c : Command) : Exchange Outcome :=
  match Client.ofSettings s.settings.api with
  | .ok client => c.execute client s.files
  | .error e => return .failed (.client e) ""

end GardenAdmin
