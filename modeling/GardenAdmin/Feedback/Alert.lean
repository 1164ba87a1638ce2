/-!
# Alerts

Banners for the user; each can be dismissed on its own.
-/

namespace GardenAdmin

inductive AlertLevel where
  | warning
  | danger
  deriving DecidableEq, Repr

/-- The name of the level in data. -/
def AlertLevel.name : AlertLevel → String
  | .warning => "warning"
  | .danger => "danger"

/-- The tag in front of a printed alert. -/
def AlertLevel.tag : AlertLevel → String
  | .warning => "warning"
  | .danger => "error"

structure Alert where
  level : AlertLevel
  message : String
  deriving DecidableEq, Repr

end GardenAdmin
