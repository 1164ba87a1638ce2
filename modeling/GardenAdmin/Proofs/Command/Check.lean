import GardenAdmin.Proofs.Command.Configure

/-!
# Checking a form is preparing it

`check` has no garden and makes one up, and yet it comes to the same end as `configure` does for any
remote garden: what a remote panel makes of a form depends on the form alone (`Form.connection`).
-/

namespace GardenAdmin

open Wire

namespace Panel

variable {g : Garden} {f : Form} {c : ConnectionParams} {r : Refusal}

end Panel

namespace ConfigureArgs

variable {files : Files} {path : String} {a : ConfigureArgs} {f : Form} {g r : Garden}
  {p panel : Panel}

end ConfigureArgs

/-! ## The check -/

section

variable {files : Files} {path : String} {f : Form} {c : ConnectionParams} {r : Panel.Refusal}

end

end GardenAdmin
