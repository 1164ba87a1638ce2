import GardenAdmin.Wire.Decoder

/-!
# Layouts

A `Layout` lists the fields of a structure in declaration order and serves both directions. A
document names the fields in an object, each at most once, or gives them by position in an array;
fields that are left out keep the value they have in `blank`. Writing uses the object form and leaves
out what a field chooses not to write.
-/

namespace GardenAdmin.Wire

open GardenAdmin.Json

/-- One field of a structure `σ` on the wire. -/
structure FieldLayout (σ : Type) where
  name : String
  /-- Other names the field is read under. -/
  aliases : List String
  /-- It has no value of its own when it is left out. -/
  required : Bool
  /-- What is written; `none` leaves the field out. -/
  write : σ → Option Value
  /-- Reads the field into a structure. -/
  read : Decoder (σ → σ)

namespace FieldLayout

variable {σ : Type}

def answersTo (f : FieldLayout σ) (key : String) : Bool := key == f.name || f.aliases.contains key

/-- A field that may be absent or `null`, and is left out when it has no value. -/
def optional {α : Type} (name : String) (get : σ → Option α) (set : Option α → σ → σ)
    (write : α → Value) (read : Decoder α) : FieldLayout σ where
  name
  aliases := []
  required := false
  write s := (get s).map write
  read room d := set <$> read.optional room d

/-- A field that may be absent or `null`, and is written as `null` when it has no value. -/
def nullable {α : Type} (name : String) (get : σ → Option α) (set : Option α → σ → σ)
    (write : α → Value) (read : Decoder α) : FieldLayout σ where
  name
  aliases := []
  required := false
  write s := some (((get s).map write).getD .null)
  read room d := set <$> read.optional room d

/-- A field that keeps its blank value when it is absent, and is always written. -/
def plain {α : Type} (name : String) (get : σ → α) (set : α → σ → σ)
    (write : α → Value) (read : Decoder α) : FieldLayout σ where
  name
  aliases := []
  required := false
  write s := some (write (get s))
  read room d := set <$> read room d

/-- A field that must be there. -/
def mandatory {α : Type} (name : String) (get : σ → α) (set : α → σ → σ)
    (write : α → Value) (read : Decoder α) : FieldLayout σ :=
  { plain name get set write read with required := true }

end FieldLayout

structure Layout (σ : Type) where
  blank : σ
  fields : List (FieldLayout σ)

namespace Layout

variable {σ : Type}

/-- What is done with a member no field answers to. -/
abbrev Stray (σ : Type) := String → Decoder (σ → σ)

/-- Members of unknown name are passed over, whatever they hold. -/
def ignore : Stray σ := fun _ _ _ => .ok id

/-- A structure part way through an object, with the names of the fields seen so far. -/
structure Progress (σ : Type) where
  state : σ
  seen : List String

/-- Reads one member. -/
def readMember (l : Layout σ) (stray : Stray σ) (room : Nat) (p : Progress σ)
    (m : Option String × Doc) : Except DecodeError (Progress σ) :=
  match m.1 with
  | none => .error .unexpected
  | some key =>
    match l.fields.find? (·.answersTo key) with
    | some f =>
      if p.seen.contains f.name then .error (.duplicateField f.name)
      else do return ⟨(← f.read room m.2) p.state, f.name :: p.seen⟩
    | none => do return ⟨(← stray key room m.2) p.state, p.seen⟩

/-- The first required field that was not seen. -/
def missing? (l : Layout σ) (seen : List String) : Option String :=
  (l.fields.find? fun f => f.required && !seen.contains f.name).map (·.name)

/-- Reads the members of an object. -/
def readMembers (l : Layout σ) (stray : Stray σ) (room : Nat) (ms : List (Option String × Doc)) :
    Except DecodeError σ := do
  let p ← ms.foldlM (l.readMember stray room) ⟨l.blank, []⟩
  match l.missing? p.seen with
  | some name => .error (.missingField name)
  | none => .ok p.state

/-- Reads fields by position. -/
def readItems (room : Nat) : List (FieldLayout σ) → List Doc → σ → Except DecodeError σ
  | [], [], s => .ok s
  | [], _ :: _, _ => .error .unexpected
  | f :: fs, [], s => if f.required then .error .unexpected else readItems room fs [] s
  | f :: fs, d :: ds, s => do readItems room fs ds ((← f.read room d) s)

/-- Reads either form. -/
def decoder (l : Layout σ) : Decoder σ
  | room, .object ms =>
    if room = 0 then .error .unexpected else l.readMembers ignore (room - 1) ms
  | room, .array xs =>
    if room = 0 then .error .unexpected else readItems (room - 1) l.fields xs l.blank
  | _, _ => .error .unexpected

/-- The members that are written. -/
def members (l : Layout σ) (s : σ) : List (String × Value) :=
  l.fields.filterMap fun f => (f.write s).map (f.name, ·)

/-- The structure as a value. -/
def toValue (l : Layout σ) (s : σ) : Value := .object (l.members s)

end Layout

end GardenAdmin.Wire
