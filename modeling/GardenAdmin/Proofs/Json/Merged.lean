import GardenAdmin.Proofs.Json.Canonical
import Mathlib.Data.List.Induction

/-!
# Names that are given more than once

A value has each name of an object once. It is the value of every document that says the same about
each name in the end: `Doc.merged` leaves a name where it is given first and gives it what is given
last, in every object of the document, and is what writes the value (`Doc.merged_of_value?`).
-/

namespace GardenAdmin.Json

section

variable {α β : Type} [DecidableEq α]

/-- Each name once, where it comes first, with what comes last under it. -/
def keepLast : List (α × β) → List (α × β)
  | [] => []
  | (k, x) :: ms =>
    let rest := keepLast ms
    (k, (rest.lookup k).getD x) :: rest.filter (·.1 ≠ k)

end

namespace Doc

mutual

/-- The document with each name of an object given once, where it came first, with what came last. -/
def merged : Doc → Doc
  | .array xs => .array (mergedItems xs)
  | .object ms => .object (keepLast (mergedMembers ms))
  | .null => .null
  | .bool b => .bool b
  | .number n => .number n
  | .string s => .string s
  | .broken => .broken
termination_by structural d => d

def mergedItems : List Doc → List Doc
  | [] => []
  | x :: xs => merged x :: mergedItems xs
termination_by structural xs => xs

def mergedMembers : List (Option String × Doc) → List (Option String × Doc)
  | [] => []
  | (k, x) :: ms => (k, merged x) :: mergedMembers ms
termination_by structural ms => ms

end

/-- No object gives a name twice. -/
inductive NoRepeats : Doc → Prop
  | null : NoRepeats .null
  | bool (b : Bool) : NoRepeats (.bool b)
  | number (n : Option Number) : NoRepeats (.number n)
  | string (s : Option String) : NoRepeats (.string s)
  | array {xs : List Doc} (items : ∀ x ∈ xs, NoRepeats x) : NoRepeats (.array xs)
  | object {ms : List (Option String × Doc)} (distinct : (ms.map Prod.fst).Nodup)
    (members : ∀ m ∈ ms, NoRepeats m.2) : NoRepeats (.object ms)
  | broken : NoRepeats .broken

end Doc

/-! ## Keeping what comes last -/

section

variable {α β : Type} [DecidableEq α] {k key : α} {x : β} {ms : List (α × β)}

/-- The member in the place of an earlier one of its name, or else at the end. -/
def put (k : α) (x : β) : List (α × β) → List (α × β)
  | [] => [(k, x)]
  | m :: ms => if m.1 = k then (k, x) :: ms else m :: put k x ms

theorem lookup_put_self (k : α) (x : β) (ms : List (α × β)) : (put k x ms).lookup k = some x := by
  induction ms with
  | nil => exact List.lookup_cons_self
  | cons m ms ih =>
    rw [put]
    split
    · exact List.lookup_cons_self
    · next other => rw [List.lookup_cons, beq_false_of_ne (Ne.symm other), ih]

theorem lookup_put_of_ne (ne : key ≠ k) (x : β) (ms : List (α × β)) :
    (put k x ms).lookup key = ms.lookup key := by
  induction ms with
  | nil => rw [put, List.lookup_cons, beq_false_of_ne ne]
  | cons m ms ih =>
    rw [put]
    split
    · next same =>
      rw [List.lookup_cons, List.lookup_cons, beq_false_of_ne ne, same, beq_false_of_ne ne]
    · rw [List.lookup_cons, List.lookup_cons, ih]

theorem filter_put_self (k : α) (x : β) (ms : List (α × β)) :
    (put k x ms).filter (·.1 ≠ k) = ms.filter (·.1 ≠ k) := by
  induction ms with
  | nil => simp [put]
  | cons m ms ih =>
    rw [put]
    split
    · next same => simp [same]
    · next other => simp only [List.filter_cons, ih]

theorem filter_put_of_ne (ne : key ≠ k) (x : β) (ms : List (α × β)) :
    (put k x ms).filter (·.1 ≠ key) = put k x (ms.filter (·.1 ≠ key)) := by
  induction ms with
  | nil => simp [put, ne.symm]
  | cons m ms ih =>
    rw [put]
    by_cases same : m.1 = k
    · have kept : m.1 ≠ key := same ▸ ne.symm
      rw [if_pos same, List.filter_cons_of_pos (by simpa using ne.symm),
        List.filter_cons_of_pos (by simpa using kept), put, if_pos same]
    · rw [if_neg same]
      by_cases gone : m.1 = key
      · rw [List.filter_cons_of_neg (by simpa using gone),
          List.filter_cons_of_neg (by simpa using gone), ih]
      · rw [List.filter_cons_of_pos (by simpa using gone),
          List.filter_cons_of_pos (by simpa using gone), put, if_neg same, ih]

/-- One more member is put where it belongs. -/
theorem keepLast_concat (ms : List (α × β)) (k : α) (x : β) :
    keepLast (ms ++ [(k, x)]) = put k x (keepLast ms) := by
  induction ms with
  | nil => rfl
  | cons m ms ih =>
    simp only [List.cons_append, keepLast, ih]
    by_cases same : m.1 = k
    · rw [put, if_pos same, same, lookup_put_self, filter_put_self]
      rfl
    · rw [put, if_neg same, lookup_put_of_ne same, filter_put_of_ne same]

example : keepLast [("a", 1), ("b", 2), ("a", 3)] = [("a", 3), ("b", 2)] := by decide

theorem foldl_put_eq_keepLast (ms : List (α × β)) :
    ms.foldl (fun before m => put m.1 m.2 before) [] = keepLast ms := by
  induction ms using List.reverseRecOn with
  | nil => rfl
  | append_singleton ms m ih => rw [List.foldl_append, ih, keepLast_concat]; rfl

theorem keepLast_of_nodup (distinct : (ms.map Prod.fst).Nodup) : keepLast ms = ms := by
  induction ms with
  | nil => rfl
  | cons m ms ih =>
    obtain ⟨new, distinct⟩ := List.nodup_cons.1 distinct
    have others : ∀ m' ∈ ms, m'.1 ≠ m.1 := fun m' mem same =>
      new (List.mem_map.2 ⟨m', mem, same⟩)
    have absent : ms.lookup m.1 = none :=
      List.lookup_eq_none_iff.2 fun m' mem => by simpa using (others m' mem).symm
    rw [keepLast, ih distinct, absent, List.filter_eq_self.2 (by simpa using others)]
    rfl

end

/-! ## The document of a value -/

namespace Doc

variable {room : Nat}

theorem toDocMembers_insertMember (k : String) (v : Value) (ms : List (String × Value)) :
    Value.toDocMembers (Value.insertMember k v ms) =
      put (some k) v.toDoc (Value.toDocMembers ms) := by
  induction ms with
  | nil => rfl
  | cons m ms ih =>
    rw [Value.insertMember, Value.toDocMembers, put]
    split
    · next same =>
      rw [if_pos (congrArg some same)]
      rfl
    · next other =>
      rw [if_neg (by simpa using other), ← ih]
      rfl

mutual

theorem merged_of_value? {room : Nat} : (d : Doc) → {v : Value} → d.value? room = some v →
    d.merged = v.toDoc
  | .null, _, rfl => rfl
  | .bool _, _, rfl => rfl
  | .number _, _, denotes => by
    obtain ⟨n, rfl, rfl⟩ := Option.map_eq_some_iff.1 denotes
    rfl
  | .string _, _, denotes => by
    obtain ⟨s, rfl, rfl⟩ := Option.map_eq_some_iff.1 denotes
    rfl
  | .array xs, v, denotes => by
    cases room with
    | zero => cases denotes
    | succ room =>
      obtain ⟨vs, items, rfl⟩ := Option.map_eq_some_iff.1 denotes
      exact congrArg Doc.array (mergedItems_of_items? xs items)
  | .object ms, v, denotes => by
    cases room with
    | zero => cases denotes
    | succ room =>
      obtain ⟨out, members, rfl⟩ := Option.map_eq_some_iff.1 denotes
      rw [merged, ← foldl_put_eq_keepLast]
      exact congrArg Doc.object (foldl_mergedMembers_of_members? ms members)
termination_by structural d => d

theorem mergedItems_of_items? {room : Nat} : (xs : List Doc) → {vs : List Value} →
    items? room xs = some vs → mergedItems xs = Value.toDocs vs
  | [], _, rfl => rfl
  | x :: xs, _, denote => by
    obtain ⟨v, first, denote⟩ := Option.bind_eq_some_iff.1 denote
    obtain ⟨vs, others, e⟩ := Option.bind_eq_some_iff.1 denote
    cases e
    rw [mergedItems, merged_of_value? x first, mergedItems_of_items? xs others, Value.toDocs]
termination_by structural xs => xs

theorem foldl_mergedMembers_of_members? {room : Nat} : (ms : List (Option String × Doc)) →
    {before out : List (String × Value)} → members? room before ms = some out →
    (mergedMembers ms).foldl (fun before m => put m.1 m.2 before) (Value.toDocMembers before) =
      Value.toDocMembers out
  | [], _, _, rfl => rfl
  | (_, x) :: ms, before, out, denote => by
    obtain ⟨k, rfl, denote⟩ := Option.bind_eq_some_iff.1 denote
    obtain ⟨v, first, denote⟩ := Option.bind_eq_some_iff.1 denote
    rw [mergedMembers, List.foldl_cons, merged_of_value? x first, ← toDocMembers_insertMember]
    exact foldl_mergedMembers_of_members? ms denote
termination_by structural ms => ms

end

theorem mergedItems_eq_map (xs : List Doc) : mergedItems xs = xs.map merged := by
  induction xs with
  | nil => rfl
  | cons x xs ih => rw [mergedItems, ih, List.map_cons]

theorem mergedMembers_eq_map (ms : List (Option String × Doc)) :
    mergedMembers ms = ms.map fun m => (m.1, m.2.merged) := by
  induction ms with
  | nil => rfl
  | cons m ms ih => rw [mergedMembers, ih, List.map_cons]

/-- Without repeats there is nothing to merge. -/
theorem NoRepeats.merged_eq {d : Doc} (h : d.NoRepeats) : d.merged = d := by
  induction h with
  | null | bool | number | string | broken => rfl
  | @array xs _ ih =>
    have items : xs.map merged = xs := (List.map_congr_left ih).trans (List.map_id' xs)
    rw [merged, mergedItems_eq_map, items]
  | @object ms distinct _ ih =>
    have each : ∀ m ∈ ms, (m.1, m.2.merged) = m := fun m mem => Prod.ext rfl (ih m mem)
    have members : ms.map (fun m => (m.1, m.2.merged)) = ms :=
      (List.map_congr_left each).trans (List.map_id' ms)
    rw [merged, mergedMembers_eq_map, members, keepLast_of_nodup distinct]

end Doc

end GardenAdmin.Json
