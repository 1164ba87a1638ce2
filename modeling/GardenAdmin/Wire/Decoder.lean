import GardenAdmin.Json.Reader
import GardenAdmin.Text.Quoted

/-!
# Decoding documents

A `Decoder` turns a document into a value of some type, or gives the cause why it cannot. It is told
how many arrays and objects may still be open at once; only a generic JSON value can use them up.
-/

namespace GardenAdmin.Wire

open GardenAdmin.Json

/-- Why a text or a document does not decode. -/
inductive DecodeError where
  /-- The text goes on after the document. -/
  | trailingText
  /-- A value has another shape than the one asked for, or the text stops being JSON. -/
  | unexpected
  /-- A port text that is neither blank nor an integer, trimmed. -/
  | invalidPort (text : String)
  | missingField (name : String)
  | duplicateField (name : String)
  | unknownConnectionType (name : String)
  deriving DecidableEq, Repr

/-- The wording of the causes that have one. -/
def DecodeError.message? : DecodeError → Option String
  | .trailingText | .unexpected => none
  | .invalidPort text => some ("invalid port: " ++ Text.quote text)
  | .missingField name => some ("missing field `" ++ name ++ "`")
  | .duplicateField name => some ("duplicate field `" ++ name ++ "`")
  | .unknownConnectionType name =>
    some ("unknown variant `" ++ name ++ "`, expected one of `HTTP`, `STOMP`, `LOCAL`")

/-- Reads a document in which at most `room` more arrays and objects may be open at once. -/
abbrev Decoder (α : Type) := (room : Nat) → Doc → Except DecodeError α

namespace Decoder

def string : Decoder String
  | _, .string (some s) => .ok s
  | _, _ => .error .unexpected

def bool : Decoder Bool
  | _, .bool b => .ok b
  | _, _ => .error .unexpected

/-- A signed 64-bit integer. -/
def int64 : Decoder Int
  | _, .number (some (.int n)) => (Text.int64Range? n).elim (.error .unexpected) .ok
  | _, _ => .error .unexpected

/-- An unsigned 64-bit integer. -/
def nat64 : Decoder Nat
  | _, .number (some (.int n)) =>
    if 0 ≤ n ∧ n ≤ Text.maxNat64 then .ok n.toNat else .error .unexpected
  | _, _ => .error .unexpected

/-- Any JSON value. -/
def value : Decoder Value
  | room, d => (d.value? room).elim (.error .unexpected) .ok

/-- `null`, or what `read` reads. -/
def optional {α : Type} (read : Decoder α) : Decoder (Option α)
  | _, .null => .ok none
  | room, d => some <$> read room d

/-- An array of what `read` reads. -/
def list {α : Type} (read : Decoder α) : Decoder (List α)
  | room, .array xs => if room = 0 then .error .unexpected else xs.mapM (read (room - 1))
  | _, _ => .error .unexpected

/-- Reads a whole text. A fault in the document comes before one behind it. -/
def text {α : Type} (read : Decoder α) (s : String) : Except DecodeError α := do
  let t := JsonText.read s
  let a ← read maxDepth t.doc
  if t.isWhole then .ok a else .error .trailingText

/-- Reads a value that is already in memory; its depth is no matter. -/
def ofValue {α : Type} (read : Decoder α) (v : Value) : Except DecodeError α :=
  read v.depth v.toDoc

end Decoder

end GardenAdmin.Wire
