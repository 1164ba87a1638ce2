import GardenAdmin.Proofs.Feedback.Complaints
import GardenAdmin.Report

/-!
# The leaves of an error document

A leaf is a value in an error document that says something, with the names of the fields that lead to
it. Errors read from a document hold the message of every leaf once, under its entry point and the
names joined by points, in document order, and each of them is printed once
(`ConfigErrors.ofValue?_leaves`).
-/

namespace GardenAdmin

open Json

/-- A value that says something, below the fields of these names. -/
structure Leaf where
  path : List String
  value : Value
  deriving DecidableEq, Repr

namespace Leaf

/-- The names of the fields, joined by points. Empty names in front do not count. -/
def field (l : Leaf) : String := ".".intercalate (l.path.dropWhile (· = ""))

/-- A text as it is, else the compact text. -/
def message (l : Leaf) : String :=
  match l.value with
  | .string s => s
  | v => v.compact

/-- The leaf inside one more field. -/
def within (name : String) (l : Leaf) : Leaf := { l with path := name :: l.path }

/-- What the leaf says about an entry point. -/
def complaint (entryPoint : String) (l : Leaf) : Complaint := ⟨entryPoint, l.field, l.message⟩

end Leaf

namespace Json.Value

mutual

/-- The leaves of a field, in document order: the items of a list, the leaves of the fields of an
object, or else the value itself. No leaf is `null`. -/
def leaves : Value → List Leaf
  | .null => []
  | .array xs => (xs.filter (· ≠ .null)).map (⟨[], ·⟩)
  | .object ms => memberLeaves ms
  | .bool b => [⟨[], .bool b⟩]
  | .number n => [⟨[], .number n⟩]
  | .string s => [⟨[], .string s⟩]
termination_by structural v => v

def memberLeaves : List (String × Value) → List Leaf
  | [] => []
  | (name, v) :: ms => (leaves v).map (Leaf.within name) ++ memberLeaves ms
termination_by structural ms => ms

end

/-- The leaves of an entry point. One that is no object is a leaf itself. -/
def entryPointLeaves : Value → List Leaf
  | .object ms => memberLeaves ms
  | .null => []
  | v => [⟨[], v⟩]

/-- The leaves of a document with the entry points that they are about, in document order. -/
def documentLeaves (ms : List (String × Value)) : List (String × Leaf) :=
  ms.flatMap fun (entryPoint, v) => (entryPointLeaves v).map (entryPoint, ·)

end Json.Value

namespace ConfigErrors

/-! ## Names of nested fields -/

theorem foldl_fieldPath_of_ne {path : String} (nonempty : path ≠ "") (names : List String) :
    names.foldl fieldPath path = ".".intercalate (path :: names) := by
  induction names generalizing path with
  | nil => exact String.intercalate_singleton.symm
  | cons name names ih =>
    have step : fieldPath path name = path ++ "." ++ name := if_neg nonempty
    have longer : path ++ "." ++ name ≠ "" := by simp [nonempty]
    rw [List.foldl_cons, step, ih longer, String.intercalate_cons_append,
      String.intercalate_cons_cons]

/-- The path to a field is made of the names that lead to it. -/
theorem foldl_fieldPath (names : List String) :
    names.foldl fieldPath "" = ".".intercalate (names.dropWhile (· = "")) := by
  induction names with
  | nil => exact String.intercalate_nil.symm
  | cons name names ih =>
    have first : fieldPath "" name = name := if_pos rfl
    rw [List.foldl_cons, first, List.dropWhile_cons]
    by_cases empty : name = ""
    · rw [if_pos (decide_eq_true empty), empty, ih]
    · rw [if_neg (by simpa using empty), foldl_fieldPath_of_ne empty]

/-! ## What is found -/

theorem messageOf?_of_ne_null {v : Value} (ne : v ≠ .null) (path : List String) :
    messageOf? v = some (Leaf.message ⟨path, v⟩) := by
  cases v <;> first | exact absurd rfl ne | rfl

/-- The name and the message of a leaf inside the field `path`. -/
def foundAt (path : String) (l : Leaf) : String × String :=
  (l.path.foldl fieldPath path, l.message)

theorem filterMap_messageOf? (path : String) (xs : List Value) :
    (xs.filterMap fun x => (messageOf? x).map (path, ·)) =
      ((xs.filter (· ≠ .null)).map (Leaf.mk [] ·)).map (foundAt path) := by
  induction xs with
  | nil => rfl
  | cons x xs ih =>
    by_cases null : x = .null
    · subst null
      exact ih
    · rw [List.filterMap_cons, messageOf?_of_ne_null null [],
        List.filter_cons_of_pos (by simpa using null), ih]
      rfl

mutual

/-- The messages found are those of the leaves, by induction over the document. -/
theorem fieldMessages_eq (path : String) (v : Value) :
    fieldMessages path v = v.leaves.map (foundAt path) := by
  cases v with
  | object ms => exact memberMessages_eq path ms
  | array xs => exact filterMap_messageOf? path xs
  | null | bool _ | number _ | string _ => rfl

theorem memberMessages_eq (path : String) (ms : List (String × Value)) :
    memberMessages path ms = (Value.memberLeaves ms).map (foundAt path) := by
  cases ms with
  | nil => rfl
  | cons m ms =>
    obtain ⟨name, v⟩ := m
    rw [memberMessages, Value.memberLeaves, fieldMessages_eq, memberMessages_eq path ms,
      List.map_append, List.map_map]
    rfl

end

theorem entryPointComplaints_eq (entryPoint : String) (v : Value) :
    entryPointComplaints entryPoint v = v.entryPointLeaves.map (Leaf.complaint entryPoint) := by
  have complaint (l : Leaf) : Complaint.mk entryPoint (foundAt "" l).1 (foundAt "" l).2 =
      l.complaint entryPoint := by
    rw [foundAt, foldl_fieldPath]
    rfl
  cases v with
  | object ms =>
    rw [entryPointComplaints, Value.entryPointLeaves, memberMessages_eq, List.map_map]
    exact List.map_congr_left fun l _ => complaint l
  | null | bool _ | number _ | string _ | array _ => rfl

/-- The complaints in a document are what its leaves say. -/
theorem documentComplaints_eq (ms : List (String × Value)) :
    documentComplaints ms = (Value.documentLeaves ms).map fun l => l.2.complaint l.1 := by
  simp only [documentComplaints, Value.documentLeaves, List.map_flatMap, List.map_map,
    entryPointComplaints_eq]
  rfl

end ConfigErrors

end GardenAdmin
