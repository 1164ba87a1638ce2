import GardenAdmin.Feedback.ConfigErrors

/-!
# Collected errors are never lost

Errors are empty only if nothing was complained about, and merged errors only if both were empty.
Merging puts an entry point in place before its fields. So merged errors have a field for every entry
point that they name if both had (`ConfigErrors.IsFull`), as whatever is built from complaints has.
-/

namespace GardenAdmin

theorem SortedMap.isEmpty_iff {α : Type} {m : SortedMap α} :
    m.isEmpty ↔ ∀ key, m.get? key = none := by
  constructor
  · intro empty key
    rw [get?, List.isEmpty_iff.1 empty]
    rfl
  · intro absent
    cases e : m.entries with
    | nil => rw [isEmpty, e]; rfl
    | cons entry _ =>
      have here : m.get? entry.1 = some entry.2 := m.mem_entries_iff.1 (e ▸ .head _)
      rw [absent] at here
      cases here

theorem SortedMap.isEmpty_eq_false_iff {α : Type} {m : SortedMap α} :
    m.isEmpty = false ↔ ∃ key, (m.get? key).isSome := by
  rw [← Bool.not_eq_true, isEmpty_iff, Classical.not_forall]
  simp only [← Option.ne_none_iff_isSome, ne_eq]

theorem SortedMap.isEmpty_update {α : Type} (m : SortedMap α) (key : String) (f : Option α → α) :
    (m.update key f).isEmpty = false :=
  isEmpty_eq_false_iff.2 ⟨key, by rw [get?_update, if_pos rfl]; rfl⟩

theorem SortedMap.isEmpty_mergeWith {α β : Type} (f : Option α → β → α) (m : SortedMap α)
    (n : SortedMap β) : (m.mergeWith f n).isEmpty = (m.isEmpty && n.isEmpty) := by
  rw [Bool.eq_iff_iff, Bool.and_eq_true]
  simp only [isEmpty_iff, get?_mergeWith, Option.or_eq_none_iff, Option.map_eq_none_iff]
  rw [forall_and, and_comm]

namespace ConfigErrors

variable {e a b : ConfigErrors}

/-- Every entry point comes with a field. -/
def IsFull (e : ConfigErrors) : Prop :=
  ∀ entryPoint fields, e.byEntryPoint.get? entryPoint = some fields → fields.isEmpty = false

theorem isFull_empty : empty.IsFull := by
  intro entryPoint fields h
  cases h

theorem eq_empty_of_isEmpty (none : e.isEmpty) : e = empty := by
  obtain ⟨⟨entries, ordered⟩⟩ := e
  obtain rfl : entries = [] := List.isEmpty_iff.1 none
  rfl

theorem isEmpty_append (e : ConfigErrors) (entryPoint field : String) (messages : List String) :
    (e.append entryPoint field messages).isEmpty = false :=
  SortedMap.isEmpty_update ..

theorem IsFull.append (h : e.IsFull) (entryPoint field : String) (messages : List String) :
    (e.append entryPoint field messages).IsFull := by
  intro entryPoint' fields found
  rw [ConfigErrors.append, SortedMap.get?_update] at found
  split at found
  · cases found
    exact SortedMap.isEmpty_update ..
  · exact h entryPoint' fields found

theorem IsFull.addAll (h : e.IsFull) (cs : List Complaint) : (e.addAll cs).IsFull :=
  List.foldlRecOn (motive := IsFull) cs add h fun _ full c _ =>
    full.append c.entryPoint c.field [c.message]

theorem isFull_ofComplaints (cs : List Complaint) : (ofComplaints cs).IsFull :=
  isFull_empty.addAll cs

theorem isEmpty_addAll (h : e.isEmpty = false) (cs : List Complaint) :
    (e.addAll cs).isEmpty = false :=
  List.foldlRecOn (motive := (isEmpty · = false)) cs add h fun _ _ _ _ => isEmpty_append ..

theorem isEmpty_ofComplaints (cs : List Complaint) : (ofComplaints cs).isEmpty = cs.isEmpty := by
  cases cs with
  | nil => rfl
  | cons c cs => exact isEmpty_addAll (isEmpty_append ..) cs

/-! ## Merging -/

theorem get?_merge (a b : ConfigErrors) (entryPoint : String) :
    (a.merge b).byEntryPoint.get? entryPoint =
      ((b.byEntryPoint.get? entryPoint).map fun fields =>
        ((a.byEntryPoint.get? entryPoint).getD .empty).merge fields).or
          (a.byEntryPoint.get? entryPoint) :=
  SortedMap.get?_mergeWith ..

theorem isEmpty_merge (a b : ConfigErrors) : (a.merge b).isEmpty = (a.isEmpty && b.isEmpty) :=
  SortedMap.isEmpty_mergeWith ..

theorem IsFull.merge (fullA : a.IsFull) (fullB : b.IsFull) : (a.merge b).IsFull := by
  intro entryPoint fields found
  rw [get?_merge] at found
  cases inB : b.byEntryPoint.get? entryPoint with
  | none =>
    rw [inB] at found
    exact fullA entryPoint fields found
  | some fieldsB =>
    rw [inB] at found
    cases found
    refine (SortedMap.isEmpty_mergeWith ..).trans ?_
    rw [fullB entryPoint fieldsB inB, Bool.and_false]

end ConfigErrors

end GardenAdmin
