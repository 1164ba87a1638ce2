/-!
# Column text

Widths count code points. `pad` sets a least width and `truncate` a greatest; a cut text ends in
an ellipsis.
-/

namespace GardenAdmin.Text

/-- The text followed by blanks up to `width` code points. -/
def pad (width : Nat) (s : String) : String := s ++ "".pushn ' ' (width - s.length)

/-- The text if it has at most `limit` code points, else its first `limit - 1` and an ellipsis. -/
def truncate (s : String) (limit : Nat) : String :=
  if s.length ≤ limit then s else .ofList (s.toList.take (limit - 1) ++ ['…'])

end GardenAdmin.Text
