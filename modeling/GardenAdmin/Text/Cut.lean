/-!
# Cutting texts

Parts of a text by positions that count bytes of its encoding. There is no part that begins or ends
within a character.
-/

namespace GardenAdmin.Text

/-- The number of bytes that encode a text. -/
def byteLength (cs : List Char) : Nat := cs.foldr (fun c n => c.utf8Size + n) 0

/-- The text without its first `n` bytes. -/
def dropBytes? : Nat → List Char → Option (List Char)
  | 0, cs => some cs
  | _ + 1, [] => none
  | n + 1, c :: cs => if c.utf8Size ≤ n + 1 then dropBytes? (n + 1 - c.utf8Size) cs else none

/-- The first `n` bytes of the text. -/
def takeBytes? : Nat → List Char → Option (List Char)
  | 0, _ => some []
  | _ + 1, [] => none
  | n + 1, c :: cs =>
    if c.utf8Size ≤ n + 1 then (takeBytes? (n + 1 - c.utf8Size) cs).map (c :: ·) else none

/-- The bytes from the position `start` up to the position `stop`. -/
def cut? (start stop : Nat) (cs : List Char) : Option (List Char) :=
  dropBytes? start cs >>= takeBytes? (stop - start)

end GardenAdmin.Text
