import GardenAdmin.Json.Value

/-!
# JSON documents

`Doc` is a JSON text as it is written: an object lists its members as often as they occur. A literal
of correct form may still denote nothing, a number beyond the doubles or a string with half a
surrogate pair; it is then `none`, which only matters to a reader that looks at it.

A text that stops being JSON is a document up to that place: `broken` stands where the next value
would, and every array and object that is open there ends with a broken item or a member without a
name. So the first fault a reader of the document meets is the first one in the text.

`Doc.value?` is the value a document denotes, with a limit on how many arrays and objects may be
open at once.
-/

namespace GardenAdmin.Json

inductive Doc where
  | null
  | bool (b : Bool)
  | number (n : Option Number)
  | string (s : Option String)
  | array (items : List Doc)
  | object (members : List (Option String × Doc))
  /-- The text goes on otherwise than JSON. -/
  | broken
  deriving Repr, Inhabited

namespace Doc

mutual

/-- The value of a document in which at most `room` more arrays and objects may be open at once. -/
def value? (room : Nat) : Doc → Option Value
  | .null => some .null
  | .bool b => some (.bool b)
  | .number n => n.map .number
  | .string s => s.map .string
  | .array xs => if room = 0 then none else (items? (room - 1) xs).map .array
  | .object ms => if room = 0 then none else (members? (room - 1) [] ms).map .object
  | .broken => none
termination_by structural d => d

def items? (room : Nat) : List Doc → Option (List Value)
  | [] => some []
  | x :: xs => do return (← value? room x) :: (← items? room xs)
termination_by structural xs => xs

/-- The members after those in `before`. -/
def members? (room : Nat) (before : List (String × Value)) :
    List (Option String × Doc) → Option (List (String × Value))
  | [] => some before
  | (k, x) :: ms => do
    let name ← k
    let v ← value? room x
    members? room (Value.insertMember name v before) ms
termination_by structural ms => ms

end

end Doc

namespace Value

mutual

/-- The document that writes a value. -/
def toDoc : Value → Doc
  | .null => .null
  | .bool b => .bool b
  | .number n => .number (some n)
  | .string s => .string (some s)
  | .array xs => .array (toDocs xs)
  | .object ms => .object (toDocMembers ms)
termination_by structural v => v

def toDocs : List Value → List Doc
  | [] => []
  | x :: xs => toDoc x :: toDocs xs
termination_by structural xs => xs

def toDocMembers : List (String × Value) → List (Option String × Doc)
  | [] => []
  | (k, x) :: ms => (some k, toDoc x) :: toDocMembers ms
termination_by structural ms => ms

end

end Value

end GardenAdmin.Json
