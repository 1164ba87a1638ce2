import GardenAdmin.Proofs.Wire.Alike
import GardenAdmin.Proofs.Wire.Field

/-!
# One field among the others

A `Slot` is a place in an object or an array where a document can stand. If a field of a layout owns
what it sets (`Layout.Owns`), a document in its slot is read as the field reads it, and everything
around the slot as if the slot were vacant (`Layout.Owns.decoder_fill`).
-/

namespace GardenAdmin.Wire

open GardenAdmin.Json

/-- The place of a member among other members, or of an item among other items. -/
inductive Slot where
  | member (before : List (Option String × Doc)) (key : String) (after : List (Option String × Doc))
  | item (before after : List Doc)

namespace Slot

/-- The document with `d` in the slot. -/
def fill (d : Doc) : Slot → Doc
  | member before key after => .object (before ++ (some key, d) :: after)
  | item before after => .array (before ++ d :: after)

/-- The document with nothing in the slot. A member is left out; an item has to be there, and is
`null`. -/
def vacant : Slot → Doc
  | member before _ after => .object (before ++ after)
  | item before after => .array (before ++ .null :: after)

end Slot

variable {σ α : Type} {room : Nat} {d d' : Doc} {a : α}

/-- It does not matter whether the field or `set` comes first. -/
def FieldLayout.Commutes (f : FieldLayout σ) (set : α → σ → σ) : Prop :=
  ∀ room d upd, f.read room d = .ok upd → ∀ a s, upd (set a s) = set a (upd s)

theorem commutes_of_read {β : Type} {f : FieldLayout σ} {read : Decoder β} {set' : β → σ → σ}
    {set : α → σ → σ} (shape : f.read = fun room d => set' <$> read room d)
    (commutes : ∀ a b s, set' b (set a s) = set a (set' b s)) : f.Commutes set := by
  intro room d upd made a s
  rw [shape] at made
  obtain ⟨b, -, rfl⟩ := map_eq_ok_iff.1 made
  exact commutes a b s

namespace Layout

variable {l : Layout σ} {field f : FieldLayout σ} {p q : Progress σ} {read : Decoder α}
  {set : α → σ → σ}

/-- The field reads what `set` sets, may be left out, and no other field has to do with it. -/
structure Owns (l : Layout σ) (field : FieldLayout σ) (read : Decoder α) (set : α → σ → σ) :
    Prop where
  mem : field ∈ l.fields
  named : IsWellNamed l.fields
  answers : ∀ key, field.answersTo key → l.fields.find? (·.answersTo key) = some field
  optional : field.required = false
  reads : field.read = fun room d => set <$> read room d
  others : ∀ f ∈ l.fields, f.name ≠ field.name → f.Commutes set
  overwrites : ∀ a b s, set a (set b s) = set a s

/-- No member is one that the field answers to. -/
def Apart (field : FieldLayout σ) (ms : List (Option String × Doc)) : Prop :=
  ∀ m ∈ ms, ∀ key, m.1 = some key → field.answersTo key = false

/-- `q` is as far as `p`, but has also seen the field with `a`. -/
structure Ahead (field : FieldLayout σ) (set : α → σ → σ) (a : α) (p q : Progress σ) : Prop where
  state : q.state = set a p.state
  seen : ∀ name, name ≠ field.name → (name ∈ q.seen ↔ name ∈ p.seen)

/-- What is left to do after the last member. -/
def finish (l : Layout σ) (p : Progress σ) : Except DecodeError σ :=
  match l.missing? p.seen with
  | some name => .error (.missingField name)
  | none => .ok p.state

/-- Reads the members that are left. -/
def readOn (l : Layout σ) (room : Nat) (ms : List (Option String × Doc)) (p : Progress σ) :
    Except DecodeError σ :=
  ms.foldlM (l.readMember ignore room) p >>= l.finish

theorem readMembers_append (before after : List (Option String × Doc)) :
    l.readMembers ignore room (before ++ after) =
      before.foldlM (l.readMember ignore room) ⟨l.blank, []⟩ >>= l.readOn room after := by
  rw [readMembers, List.foldlM_append, bind_assoc]
  rfl

/-- A field without other names answers to its own. -/
theorem find?_of_answersTo (named : IsWellNamed l.fields) (mem : field ∈ l.fields)
    (plain : field.aliases = []) (key : String) (answers : field.answersTo key) :
    l.fields.find? (·.answersTo key) = some field := by
  rw [← name_of_answersTo plain answers]
  exact find?_name named mem

namespace Owns

variable (h : l.Owns field read set)
include h

theorem name_ne {key : String} (found : l.fields.find? (·.answersTo key) = some f)
    (apart : field.answersTo key = false) : f.name ≠ field.name := by
  intro same
  obtain rfl := eq_of_name_eq h.named (List.mem_of_find?_eq_some found) h.mem same
  have answers := List.find?_some found
  rw [apart] at answers
  cases answers

/-- A member of another name is read in both. -/
theorem readMember_ahead {m : Option String × Doc}
    (apart : ∀ key, m.1 = some key → field.answersTo key = false) (ahead : Ahead field set a p q) :
    Alike (Ahead field set a) (l.readMember ignore room p m) (l.readMember ignore room q m) := by
  obtain ⟨_ | key, d⟩ := m
  · exact .error _
  simp only [readMember]
  cases found : l.fields.find? (·.answersTo key) with
  | none => exact .ok ahead
  | some f =>
    have name := h.name_ne found (apart key rfl)
    have seen : q.seen.contains f.name = p.seen.contains f.name := by
      rw [Bool.eq_iff_iff, List.contains_iff_mem, List.contains_iff_mem, ahead.seen _ name]
    simp only [seen]
    split
    · exact .error _
    · cases made : f.read room d with
      | error e => exact .error e
      | ok upd =>
        refine .ok ⟨?_, fun other ne => ?_⟩
        · have commutes := h.others f (List.mem_of_find?_eq_some found) name room d upd made
          simp only [ahead.state, commutes]
        · simp only [List.mem_cons, ahead.seen other ne]

/-- What the field sets comes from its place in the document. -/
theorem isolates {get : σ → α} (plain : field.aliases = []) (getSet : ∀ a s, get (set a s) = a)
    (setGet : ∀ s, set (get s) s = s) (room : Nat) : l.Isolates field room get read where
  mem := h.mem
  named := h.named
  plain
  sets d set' made := by
    rw [h.reads] at made
    obtain ⟨a, value, rfl⟩ := map_eq_ok_iff.1 made
    exact ⟨a, value, getSet a⟩
  others f mem name d upd made s := by
    calc
      get (upd s) = get (upd (set (get s) s)) := by rw [setGet]
      _ = get (set (get s) (upd s)) := by rw [h.others f mem name room d upd made]
      _ = get s := getSet _ _

theorem missing?_ahead (ahead : Ahead field set a p q) : l.missing? q.seen = l.missing? p.seen := by
  have same : ∀ f ∈ l.fields,
      (f.required && !q.seen.contains f.name) = (f.required && !p.seen.contains f.name) := by
    intro f mem
    by_cases name : f.name = field.name
    · rw [eq_of_name_eq h.named mem h.mem name, h.optional]
      rfl
    · have seen : q.seen.contains f.name = p.seen.contains f.name := by
        rw [Bool.eq_iff_iff, List.contains_iff_mem, List.contains_iff_mem, ahead.seen _ name]
      rw [seen]
  rw [missing?, missing?, ← List.head?_filter, ← List.head?_filter, List.filter_congr same]

theorem readOn_ahead {after : List (Option String × Doc)} (apart : Apart field after)
    (ahead : Ahead field set a p q) :
    Alike (fun s t => t = set a s) (l.readOn room after p) (l.readOn room after q) := by
  refine Alike.bind (.foldlM (fun m mem p q => ?_) ahead) fun p q ahead => ?_
  · exact h.readMember_ahead (apart m mem)
  · rw [finish, finish, h.missing?_ahead ahead]
    split
    · exact .error _
    · exact .ok ahead.state

theorem not_seen {before : List (Option String × Doc)} (apart : Apart field before)
    (start : field.name ∉ p.seen)
    (steps : before.foldlM (l.readMember ignore room) p = .ok q) : field.name ∉ q.seen := by
  induction before generalizing p with
  | nil =>
    cases steps
    exact start
  | cons m before ih =>
    rw [List.foldlM_cons] at steps
    obtain ⟨r, first, later⟩ := bind_eq_ok_iff.1 steps
    refine ih (fun m mem => apart m (.tail _ mem)) ?_ later
    obtain ⟨key, set, name, ⟨f, found, -, -, rfl⟩ | ⟨-, -, rfl⟩⟩ := readMember_cases first
    · have ne := h.name_ne found (apart m (.head _) key name)
      exact fun mem => (List.mem_cons.1 mem).elim (fun same => ne same.symm) start
    · exact start

/-- The field's own member, read after others. -/
theorem readOn_own {key : String} (answers : field.answersTo key) (new : field.name ∉ p.seen)
    (after : List (Option String × Doc)) : l.readOn room ((some key, d) :: after) p =
      read room d >>= fun a => l.readOn room after ⟨set a p.state, field.name :: p.seen⟩ := by
  have unseen : p.seen.contains field.name = false := by simpa using new
  rw [readOn, List.foldlM_cons, bind_assoc, readMember]
  simp only [h.answers key answers, h.reads, unseen]
  cases read room d <;> rfl

/-- The members around the field's own one are read as if it were not there. -/
theorem readMembers_own {key : String} (answers : field.answersTo key)
    {before after : List (Option String × Doc)} (apart : Apart field (before ++ after)) :
    (∀ s, l.readMembers ignore room (before ++ after) = .ok s →
      l.readMembers ignore room (before ++ (some key, d) :: after) = (set · s) <$> read room d) ∧
    ∀ t, l.readMembers ignore room (before ++ (some key, d) :: after) = .ok t →
      ∃ s, l.readMembers ignore room (before ++ after) = .ok s := by
  have apartBefore : Apart field before := fun m mem => apart m (List.mem_append_left _ mem)
  have apartAfter : Apart field after := fun m mem => apart m (List.mem_append_right _ mem)
  -- Up to the slot there is one reading. After it, the one that has met the field stays ahead of the
  -- other by `a`, to the end.
  have ahead (a : α) (p : Progress σ) : Alike (fun s t => t = set a s) (l.readOn room after p)
      (l.readOn room after ⟨set a p.state, field.name :: p.seen⟩) :=
    h.readOn_ahead apartAfter ⟨rfl, fun name ne => by simp [ne]⟩
  rw [readMembers_append, readMembers_append]
  constructor
  · intro s vacant
    obtain ⟨p, steps, rest⟩ := bind_eq_ok_iff.1 vacant
    have new := h.not_seen apartBefore List.not_mem_nil steps
    rw [steps]
    refine (h.readOn_own answers new after).trans ?_
    cases read room d with
    | error e => rfl
    | ok a =>
      have both := ahead a p
      rw [rest] at both
      obtain ⟨_, done, rfl⟩ := both.of_ok
      exact done
  · intro t filled
    obtain ⟨p, steps, rest⟩ := bind_eq_ok_iff.1 filled
    have new := h.not_seen apartBefore List.not_mem_nil steps
    rw [h.readOn_own answers new after] at rest
    obtain ⟨a, -, rest⟩ := bind_eq_ok_iff.1 rest
    have both := ahead a p
    rw [rest] at both
    obtain ⟨s, done, -⟩ := both.of_ok_right
    exact ⟨s, bind_eq_ok_iff.2 ⟨p, steps, done⟩⟩

end Owns

/-! ## Members read twice -/

theorem seen_of_readMember {room : Nat} {m : Option String × Doc}
    (step : l.readMember ignore room p m = .ok q) : p.seen ⊆ q.seen := by
  obtain ⟨-, -, -, ⟨f, -, -, -, rfl⟩ | ⟨-, -, rfl⟩⟩ := readMember_cases step
  · exact List.subset_cons_self f.name p.seen
  · exact List.Subset.refl p.seen

theorem seen_of_foldlM {room : Nat} {ms : List (Option String × Doc)}
    (steps : ms.foldlM (l.readMember ignore room) p = .ok q) : p.seen ⊆ q.seen := by
  induction ms generalizing p with
  | nil =>
    cases steps
    exact List.Subset.refl _
  | cons m ms ih =>
    rw [List.foldlM_cons] at steps
    obtain ⟨r, first, later⟩ := bind_eq_ok_iff.1 steps
    exact List.Subset.trans (seen_of_readMember first) (ih later)

namespace Owns

variable (h : l.Owns field read set) {key key' : String}
include h

theorem readMember_twice (answers : field.answersTo key) (seen : field.name ∈ p.seen) (d : Doc) :
    l.readMember ignore room p (some key, d) = .error (.duplicateField field.name) := by
  have again : p.seen.contains field.name = true := List.contains_iff_mem.2 seen
  simp only [readMember, h.answers key answers, again, if_true]

theorem seen_of_own (answers : field.answersTo key) {before mid : List (Option String × Doc)}
    (steps : (before ++ (some key, d) :: mid).foldlM (l.readMember ignore room) p = .ok q) :
    field.name ∈ q.seen := by
  rw [List.foldlM_append] at steps
  obtain ⟨r, -, steps⟩ := bind_eq_ok_iff.1 steps
  rw [List.foldlM_cons] at steps
  obtain ⟨r', own, steps⟩ := bind_eq_ok_iff.1 steps
  refine seen_of_foldlM steps ?_
  obtain ⟨_, set, ⟨⟩, ⟨f, found, -, -, rfl⟩ | ⟨none, -⟩⟩ := readMember_cases own
  · obtain rfl := Option.some.inj ((h.answers key answers).symm.trans found)
    exact .head _
  · rw [h.answers key answers] at none
    cases none

/-- A second member that the field answers to is an error, and this one unless there is one before
it. -/
theorem decoder_twice (answers : field.answersTo key) (answers' : field.answersTo key')
    (room : Nat) (before mid after : List (Option String × Doc)) (d d' : Doc) :
    (∀ s, l.decoder room (.object (before ++ (some key, d) :: mid ++ (some key', d') :: after)) ≠
      .ok s) ∧
    ∀ s, l.decoder room (.object (before ++ (some key, d) :: mid)) = .ok s →
      l.decoder room (.object (before ++ (some key, d) :: mid ++ (some key', d') :: after)) =
        .error (.duplicateField field.name) := by
  have twice {q : Progress σ} (room : Nat) (steps : (before ++ (some key, d) :: mid).foldlM
      (l.readMember ignore room) ⟨l.blank, []⟩ = .ok q) :
      l.readOn room ((some key', d') :: after) q = .error (.duplicateField field.name) := by
    rw [readOn, List.foldlM_cons, h.readMember_twice answers' (h.seen_of_own answers steps)]
    rfl
  simp only [decoder]
  split
  · constructor <;> rintro _ ⟨⟩
  · rw [readMembers_append]
    constructor
    · intro s done
      obtain ⟨q, steps, rest⟩ := bind_eq_ok_iff.1 done
      rw [twice _ steps] at rest
      cases rest
    · intro s done
      obtain ⟨q, steps, -⟩ := bind_eq_ok_iff.1 done
      rw [steps]
      exact twice _ steps

end Owns

/-! ## Items -/

theorem readItems_commutes {fs : List (FieldLayout σ)} (commutes : ∀ f ∈ fs, f.Commutes set)
    (a : α) (ds : List Doc) (s : σ) :
    readItems room fs ds (set a s) = set a <$> readItems room fs ds s := by
  induction fs generalizing ds s with
  | nil => cases ds <;> rfl
  | cons f fs ih =>
    have ih := ih fun f mem => commutes f (.tail _ mem)
    cases ds with
    | nil =>
      rw [readItems, readItems, ih]
      split <;> rfl
    | cons d ds =>
      rw [readItems, readItems]
      cases made : f.read room d with
      | error e => rfl
      | ok upd =>
        have first := commutes f (.head _) room d upd made a s
        exact (congrArg (readItems room fs ds) first).trans (ih ds (upd s))

/-- The items before the field's own one, that one, and the items after it. -/
theorem readItems_own {before after : List (FieldLayout σ)} {xs : List Doc}
    (reads : field.read = fun room d => set <$> read room d)
    (commutes : ∀ f ∈ after, f.Commutes set) (place : before.length = xs.length) (ys : List Doc)
    (s : σ) : readItems room (before ++ field :: after) (xs ++ d :: ys) s =
      readItems room before xs s >>= fun s => read room d >>= fun a =>
        set a <$> readItems room after ys s := by
  -- The field's item comes as many items later as its place in the layout, so fields and items before
  -- it are used up together.
  induction before generalizing xs s with
  | nil =>
    obtain rfl : xs = [] := List.eq_nil_of_length_eq_zero place.symm
    rw [List.nil_append, List.nil_append, readItems, readItems, reads]
    dsimp only
    cases read room d with
    | error e => rfl
    | ok a => exact readItems_commutes commutes a ys s
  | cons f before ih =>
    obtain ⟨x, xs, rfl⟩ := List.exists_cons_of_length_pos (l := xs) (by rw [← place]; simp)
    rw [List.cons_append, List.cons_append, readItems, readItems, bind_assoc]
    cases f.read room x with
    | error e => rfl
    | ok upd => exact ih (Nat.succ.inj place) (upd s)

/-! ## Slots -/

/-- The slot is one that is left to the field. -/
def HasSlot (l : Layout σ) (field : FieldLayout σ) : Slot → Prop
  | .member before key after => field.answersTo key ∧ Apart field (before ++ after)
  | .item before _ => ∃ fs fs', l.fields = fs ++ field :: fs' ∧ fs.length = before.length

namespace Owns

variable (h : l.Owns field read set) {slot : Slot}
include h

theorem commutes_after {fs fs' : List (FieldLayout σ)} (place : l.fields = fs ++ field :: fs') :
    ∀ f ∈ fs', f.Commutes set := by
  intro f mem
  refine h.others f (place ▸ List.mem_append_right _ (.tail _ mem)) fun same => ?_
  have named := h.named
  rw [place] at named
  have apart := List.rel_of_pairwise_cons (List.pairwise_append.1 named).2.1 mem
  rw [same, field.answersTo_name] at apart
  cases apart

/-- Around a document in the field's slot everything is read as if the slot were vacant. -/
theorem decoder_fill (own : l.HasSlot field slot) {vacant : α}
    (null : ∀ room, read room .null = .ok vacant) (room : Nat) (d : Doc) :
    (∀ s, l.decoder room slot.vacant = .ok s →
      l.decoder room (slot.fill d) = (set · s) <$> read (room - 1) d) ∧
    ∀ t, l.decoder room (slot.fill d) = .ok t → ∃ s, l.decoder room slot.vacant = .ok s := by
  cases slot with
  | member before key after =>
    rw [Slot.vacant, Slot.fill, decoder, decoder]
    split
    · constructor <;> rintro _ ⟨⟩
    · exact h.readMembers_own own.1 own.2
  | item before after =>
    obtain ⟨fs, fs', place, length⟩ := own
    have commutes := h.commutes_after place
    rw [Slot.vacant, Slot.fill, decoder, decoder]
    split
    · constructor <;> rintro _ ⟨⟩
    · -- In the vacant slot there is `null`, and what that sets is overwritten.
      rw [place, readItems_own h.reads commutes length, readItems_own h.reads commutes length, null]
      constructor
      · intro s done
        obtain ⟨s', first, rest⟩ := bind_eq_ok_iff.1 done
        obtain ⟨s'', tail, rfl⟩ := map_eq_ok_iff.1 rest
        rw [first]
        cases read (room - 1) d with
        | error e => rfl
        | ok a =>
          have after : set a <$> readItems (room - 1) fs' after s' = .ok (set a s'') := by
            rw [tail]
            rfl
          exact after.trans (congrArg Except.ok (h.overwrites a vacant s'').symm)
      · intro t done
        obtain ⟨s', first, rest⟩ := bind_eq_ok_iff.1 done
        obtain ⟨a, -, rest⟩ := bind_eq_ok_iff.1 rest
        obtain ⟨s'', rest, -⟩ := map_eq_ok_iff.1 rest
        exact ⟨set vacant s'', bind_eq_ok_iff.2 ⟨s', first, map_eq_ok_iff.2 ⟨s'', rest, rfl⟩⟩⟩

/-- Documents that the field reads alike can take each other's place. -/
theorem decoder_fill_congr (own : l.HasSlot field slot) (same : ∀ room, read room d = read room d')
    (room : Nat) : l.decoder room (slot.fill d) = l.decoder room (slot.fill d') := by
  cases slot with
  | member before key after =>
    have rest (room : Nat) :
        l.readOn room ((some key, d) :: after) = l.readOn room ((some key, d') :: after) := by
      funext p
      simp only [readOn, List.foldlM_cons, readMember, h.answers key own.1, h.reads, same]
    simp only [Slot.fill, decoder, readMembers_append, rest]
  | item before after =>
    obtain ⟨fs, fs', place, length⟩ := own
    have commutes := h.commutes_after place
    rw [Slot.fill, Slot.fill, decoder, decoder, place, readItems_own h.reads commutes length,
      readItems_own h.reads commutes length, same]

end Owns

end Layout

end GardenAdmin.Wire
