import GardenAdmin.Proofs.Wire.Layout

/-!
# One field of what is read

If one field of a layout sets something that nothing else touches (`Layout.Isolates`), what it is in
the end comes from the member of the field's name, or from the item in the field's place.
-/

namespace GardenAdmin.Wire

open GardenAdmin.Json

variable {σ α : Type} {room : Nat} {get : σ → α} {read : Decoder α}

/-- What `read` reads of the document, if there is one, and else what was there before. -/
def Comes (read : Decoder α) (room : Nat) (before : α) : Option Doc → α → Prop
  | none, a => a = before
  | some d, a => read room d = .ok a

/-- Reading the field does not change what `get` gets. -/
def FieldLayout.Leaves (f : FieldLayout σ) (room : Nat) (get : σ → α) : Prop :=
  ∀ d set, f.read room d = .ok set → ∀ s, get (set s) = get s

theorem leaves_of_read {β : Type} {f : FieldLayout σ} {read : Decoder β} {set : β → σ → σ}
    (shape : f.read = fun room d => set <$> read room d)
    (leaves : ∀ b s, get (set b s) = get s) : f.Leaves room get := by
  intro d set' made s
  rw [shape] at made
  obtain ⟨b, -, rfl⟩ := map_eq_ok_iff.1 made
  exact leaves b s

namespace Layout

variable {l : Layout σ} {stray : Stray σ} {field f : FieldLayout σ} {p q : Progress σ} {key : String}
  {d : Doc}

/-- Reading a stray member does not change what `get` gets. -/
def Stray.Leaves (stray : Stray σ) (room : Nat) (get : σ → α) : Prop :=
  ∀ key d set, stray key room d = .ok set → ∀ s, get (set s) = get s

theorem ignore_leaves : Stray.Leaves ignore room get := by
  rintro key d _ ⟨⟩ s
  rfl

/-- What `get` gets is what `read` reads where the field is, and no other field sets it. -/
structure Isolates (l : Layout σ) (field : FieldLayout σ) (room : Nat) (get : σ → α)
    (read : Decoder α) : Prop where
  mem : field ∈ l.fields
  named : IsWellNamed l.fields
  plain : field.aliases = []
  sets : ∀ d set, field.read room d = .ok set → ∃ a, read room d = .ok a ∧ ∀ s, get (set s) = a
  others : ∀ f ∈ l.fields, f.name ≠ field.name → f.Leaves room get

theorem name_of_answersTo (plain : f.aliases = []) (answers : f.answersTo key) : f.name = key := by
  have named : key = f.name := by simpa [FieldLayout.answersTo, plain] using answers
  exact named.symm

/-- Fields are told apart by their names. -/
theorem eq_of_name_eq {fs : List (FieldLayout σ)} (named : IsWellNamed fs) (mem : f ∈ fs)
    {g : FieldLayout σ} (mem' : g ∈ fs) (same : f.name = g.name) : f = g := by
  have found := find?_name named mem
  rw [same, find?_name named mem'] at found
  exact (Option.some.inj found).symm

namespace Isolates

variable (h : l.Isolates field room get read)
include h

theorem of_readMember_own (step : l.readMember stray room p (some field.name, d) = .ok q) :
    field.name ∉ p.seen ∧ field.name ∈ q.seen ∧ read room d = .ok (get q.state) := by
  obtain ⟨_, set, ⟨⟩, ⟨f, found, new, made, rfl⟩ | ⟨none, -⟩⟩ := readMember_cases step
  · obtain rfl := Option.some.inj ((find?_name h.named h.mem).symm.trans found)
    obtain ⟨a, value, sets⟩ := h.sets d set made
    exact ⟨new, .head _, by rw [value, sets]⟩
  · rw [find?_name h.named h.mem] at none
    cases none

theorem of_readMember_ne (strays : stray.Leaves room get) (other : key ≠ field.name)
    (step : l.readMember stray room p (some key, d) = .ok q) :
    (field.name ∈ q.seen ↔ field.name ∈ p.seen) ∧ get q.state = get p.state := by
  obtain ⟨_, set, ⟨⟩, ⟨f, found, -, made, rfl⟩ | ⟨-, made, rfl⟩⟩ := readMember_cases step
  · have mem := List.mem_of_find?_eq_some found
    have answers := List.find?_some found
    have name : f.name ≠ field.name := fun same => by
      obtain rfl := eq_of_name_eq h.named mem h.mem same
      exact other (name_of_answersTo h.plain answers).symm
    exact ⟨by simp [Ne.symm name], h.others f mem name d set made p.state⟩
  · exact ⟨Iff.rfl, strays key d set made p.state⟩

/-- The first member of the field's name decides, and no second one is read. -/
theorem of_foldlM (strays : stray.Leaves room get) {ms : List (Option String × Doc)}
    (steps : ms.foldlM (l.readMember stray room) p = .ok q) :
    Comes read room (get p.state)
      (if field.name ∈ p.seen then none else ms.lookup (some field.name)) (get q.state) := by
  induction ms generalizing p with
  | nil =>
    cases steps
    rw [List.lookup_nil, ite_self]
    rfl
  | cons m ms ih =>
    rw [List.foldlM_cons] at steps
    obtain ⟨r, first, later⟩ := bind_eq_ok_iff.1 steps
    obtain ⟨key, -, name, -⟩ := readMember_cases first
    obtain ⟨_, d⟩ := m
    cases name
    have rest := ih later
    -- after the field's own member later ones are out of play, and any other one changes nothing
    by_cases own : key = field.name
    · subst own
      obtain ⟨new, seen, value⟩ := h.of_readMember_own first
      rw [if_pos seen] at rest
      rw [if_neg new, List.lookup_cons_self]
      exact value.trans (congrArg Except.ok (Eq.symm rest))
    · obtain ⟨seen, same⟩ := h.of_readMember_ne strays own first
      have skip : ((some key, d) :: ms).lookup (some field.name) = ms.lookup (some field.name) := by
        rw [List.lookup_cons, beq_false_of_ne (by simpa using Ne.symm own)]
      simp only [seen, same] at rest
      rwa [skip]

theorem of_readMembers (strays : stray.Leaves room get) {ms : List (Option String × Doc)} {s : σ}
    (done : l.readMembers stray room ms = .ok s) :
    Comes read room (get l.blank) (ms.lookup (some field.name)) (get s) := by
  obtain ⟨q, steps, e⟩ := bind_eq_ok_iff.1 done
  have comes := h.of_foldlM strays steps
  rw [if_neg List.not_mem_nil] at comes
  split at e
  next => cases e
  next =>
    cases e
    exact comes

end Isolates

/-! ## By position -/

theorem get_of_readItems {fs : List (FieldLayout σ)} (leaves : ∀ f ∈ fs, f.Leaves room get)
    {ds : List Doc} {s t : σ} (done : readItems room fs ds t = .ok s) : get s = get t := by
  induction fs generalizing ds t with
  | nil =>
    cases ds with
    | nil =>
      cases done
      rfl
    | cons d ds => cases done
  | cons f fs ih =>
    have ih := @ih fun g mem => leaves g (.tail _ mem)
    cases ds with
    | nil =>
      rw [readItems] at done
      split at done
      next => cases done
      next => exact ih done
    | cons d ds =>
      obtain ⟨set, made, later⟩ := bind_eq_ok_iff.1 done
      exact (ih later).trans (leaves f (.head _) d set made t)

/-- The item in the place of the field decides. -/
theorem comes_of_readItems {before after : List (FieldLayout σ)}
    (sets : ∀ d set, field.read room d = .ok set → ∃ a, read room d = .ok a ∧ ∀ s, get (set s) = a)
    (others : ∀ f ∈ before ++ after, f.Leaves room get) {ds : List Doc} {s t : σ}
    (done : readItems room (before ++ field :: after) ds t = .ok s) :
    Comes read room (get t) ds[before.length]? (get s) := by
  induction before generalizing ds t with
  | nil =>
    cases ds with
    | nil =>
      rw [List.nil_append, readItems] at done
      split at done
      next => cases done
      next => exact get_of_readItems others done
    | cons d ds =>
      obtain ⟨set, made, later⟩ := bind_eq_ok_iff.1 done
      obtain ⟨a, value, sets⟩ := sets d set made
      have same := get_of_readItems others later
      rw [sets] at same
      exact value.trans (congrArg Except.ok same.symm)
  | cons f before ih =>
    have ih := @ih fun g mem => others g (.tail _ mem)
    cases ds with
    | nil =>
      rw [List.cons_append, readItems] at done
      split at done
      next => cases done
      next => exact ih done
    | cons d ds =>
      obtain ⟨set, made, later⟩ := bind_eq_ok_iff.1 done
      have rest := ih later
      rwa [others f (.head _) d set made t] at rest

theorem Isolates.of_readItems (h : l.Isolates field room get read)
    (before : List (FieldLayout σ)) {after : List (FieldLayout σ)}
    (place : l.fields = before ++ field :: after)
    {ds : List Doc} {s : σ} (done : readItems room l.fields ds l.blank = .ok s) :
    Comes read room (get l.blank) ds[before.length]? (get s) := by
  have named := h.named
  rw [place] at named done
  obtain ⟨-, later, earlier⟩ := List.pairwise_append.1 named
  refine comes_of_readItems h.sets (fun f mem => ?_) done
  rcases List.mem_append.1 mem with mem | mem
  · refine h.others f (place ▸ List.mem_append_left _ mem) fun same => ?_
    have apart := earlier f mem field (.head _)
    rw [← same, f.answersTo_name] at apart
    cases apart
  · refine h.others f (place ▸ List.mem_append_right _ (.tail _ mem)) fun same => ?_
    have apart := List.rel_of_pairwise_cons later mem
    rw [same, field.answersTo_name] at apart
    cases apart

end Layout

/-! ## Either way -/

/-- The document in the place of a field: the first member of the name, or the item of the number. -/
def inPlace? (name : String) (i : Nat) : Doc → Option Doc
  | .object ms => ms.lookup (some name)
  | .array xs => xs[i]?
  | .null | .bool _ | .number _ | .string _ | .broken => none

theorem Layout.Isolates.of_decoder {l : Layout σ} {field : FieldLayout σ}
    (h : l.Isolates field (room - 1) get read) (before : List (FieldLayout σ))
    {after : List (FieldLayout σ)} (place : l.fields = before ++ field :: after) {d : Doc} {s : σ}
    (done : l.decoder room d = .ok s) :
    Comes read (room - 1) (get l.blank) (inPlace? field.name before.length d) (get s) := by
  unfold decoder at done
  split at done
  next ms =>
    split at done
    next => cases done
    next => exact h.of_readMembers ignore_leaves done
  next xs =>
    split at done
    next => cases done
    next => exact h.of_readItems before place done
  next => cases done

theorem Layout.Isolates.of_decoder_get {l : Layout σ} {i : Fin l.fields.length}
    (h : l.Isolates (l.fields.get i) (room - 1) get read) {d : Doc} {s : σ}
    (done : l.decoder room d = .ok s) :
    Comes read (room - 1) (get l.blank) (inPlace? (l.fields.get i).name i d) (get s) := by
  have place : l.fields = l.fields.take i ++ l.fields.get i :: l.fields.drop (i + 1) := by
    rw [List.get_eq_getElem, ← List.drop_eq_getElem_cons i.isLt, List.take_append_drop]
  have comes := h.of_decoder _ place done
  rwa [List.length_take_of_le (Nat.le_of_lt i.isLt)] at comes

end GardenAdmin.Wire
