import GardenAdmin.Proofs.Wire.Layout

/-!
# Two readings side by side

Two readings are `Alike` if they fail with the same cause or give results that belong together. A
layout that mirrors another field by field reads every document as that one does, up to a map
(`Layout.Mirrors.decoder`).
-/

namespace GardenAdmin.Wire

open GardenAdmin.Json

/-- Both fail with the same cause, or both succeed with results in the relation. -/
inductive Alike {α β : Type} (R : α → β → Prop) :
    Except DecodeError α → Except DecodeError β → Prop
  | error (e : DecodeError) : Alike R (.error e) (.error e)
  | ok {a : α} {b : β} (related : R a b) : Alike R (.ok a) (.ok b)

namespace Alike

variable {α β γ δ ι : Type} {R : α → β → Prop} {S : γ → δ → Prop} {x : Except DecodeError α}
  {y : Except DecodeError β} {f : α → Except DecodeError γ} {g : β → Except DecodeError δ}

theorem bind (h : Alike R x y) (next : ∀ a b, R a b → Alike S (f a) (g b)) :
    Alike S (x >>= f) (y >>= g) := by
  cases h with
  | error e => exact .error e
  | ok related => exact next _ _ related

/-- Folds go along with each other if their steps do. -/
theorem foldlM {f : α → ι → Except DecodeError α} {g : β → ι → Except DecodeError β} {ms : List ι}
    (step : ∀ m ∈ ms, ∀ a b, R a b → Alike R (f a m) (g b m)) {a : α} {b : β} (start : R a b) :
    Alike R (ms.foldlM f a) (ms.foldlM g b) := by
  induction ms generalizing a b with
  | nil => exact .ok start
  | cons m ms ih =>
    rw [List.foldlM_cons, List.foldlM_cons]
    exact (step m (.head _) a b start).bind fun _ _ => ih fun m mem => step m (.tail _ mem)

/-- If the results are those of a map, the one reading is the other one mapped. -/
theorem iff_eq_map {h : α → β} : Alike (fun a b => b = h a) x y ↔ y = h <$> x := by
  constructor
  · rintro (e | rfl) <;> rfl
  · rintro rfl
    cases x with
    | error e => exact .error e
    | ok a => exact .ok rfl

theorem of_ok {a : α} (h : Alike R (.ok a) y) : ∃ b, y = .ok b ∧ R a b := by
  cases h with
  | ok related => exact ⟨_, rfl, related⟩

theorem of_ok_right {b : β} (h : Alike R x (.ok b)) : ∃ a, x = .ok a ∧ R a b := by
  cases h with
  | ok related => exact ⟨_, rfl, related⟩

end Alike

/-! ## Layouts -/

variable {σ τ : Type}

/-- The field `f'` is read where `f` is, and sets in the image what `f` sets. -/
structure FieldLayout.Mirrors (h : σ → τ) (f : FieldLayout σ) (f' : FieldLayout τ) : Prop where
  name : f'.name = f.name
  aliases : f'.aliases = f.aliases
  required : f'.required = f.required
  reads : ∀ room d, Alike (fun set set' => ∀ s, set' (h s) = h (set s)) (f.read room d)
    (f'.read room d)

/-- The layouts have fields of the same names in the same order, and what is blank is so in the
image. -/
structure Layout.Mirrors (l : Layout σ) (l' : Layout τ) (h : σ → τ) : Prop where
  blank : l'.blank = h l.blank
  fields : List.Forall₂ (FieldLayout.Mirrors h) l.fields l'.fields

/-- Fields that read the same and set it alike. -/
theorem FieldLayout.mirrors_of_read {α : Type} {h : σ → τ} {f : FieldLayout σ} {f' : FieldLayout τ}
    {read : Decoder α} {set : α → σ → σ} {set' : α → τ → τ}
    (name : f'.name = f.name) (aliases : f'.aliases = f.aliases)
    (required : f'.required = f.required) (shape : f.read = fun room d => set <$> read room d)
    (shape' : f'.read = fun room d => set' <$> read room d)
    (sets : ∀ a s, set' a (h s) = h (set a s)) : f.Mirrors h f' where
  name
  aliases
  required
  reads room d := by
    simp only [shape, shape']
    cases read room d with
    | error e => exact .error e
    | ok a => exact .ok (sets a)

theorem rel_find? {α β : Type} {R : α → β → Prop} {p : α → Bool} {q : β → Bool} {as : List α}
    {bs : List β} (all : List.Forall₂ R as bs) (agree : ∀ a b, R a b → q b = p a) :
    Option.Rel R (as.find? p) (bs.find? q) := by
  induction all with
  | nil => exact .none
  | @cons a b _ _ first _ ih =>
    rw [List.find?_cons, List.find?_cons, agree a b first]
    cases p a with
    | true => exact .some first
    | false => exact ih

namespace Layout

variable {l : Layout σ} {l' : Layout τ} {h : σ → τ} {room : Nat}

/-- The progress of the mapped structure. -/
def Progress.map (h : σ → τ) (p : Progress σ) : Progress τ := ⟨h p.state, p.seen⟩

namespace Mirrors

theorem find?_answersTo (mirrors : l.Mirrors l' h) (key : String) :
    Option.Rel (FieldLayout.Mirrors h) (l.fields.find? (·.answersTo key))
      (l'.fields.find? (·.answersTo key)) :=
  rel_find? mirrors.fields fun f f' same => by
    rw [FieldLayout.answersTo, FieldLayout.answersTo, same.name, same.aliases]

theorem missing? (mirrors : l.Mirrors l' h) (seen : List String) :
    l'.missing? seen = l.missing? seen := by
  have found : Option.Rel (FieldLayout.Mirrors h)
      (l.fields.find? fun f => f.required && !seen.contains f.name)
      (l'.fields.find? fun f => f.required && !seen.contains f.name) :=
    rel_find? mirrors.fields fun f f' same => by rw [same.name, same.required]
  rw [Layout.missing?, Layout.missing?]
  generalize l.fields.find? _ = f at found ⊢
  generalize l'.fields.find? _ = f' at found ⊢
  cases found with
  | none => rfl
  | some same => exact congrArg some same.name

theorem readMember (mirrors : l.Mirrors l' h) (m : Option String × Doc) (p : Progress σ) :
    Alike (fun p q => q = p.map h) (l.readMember ignore room p m)
      (l'.readMember ignore room (p.map h) m) := by
  obtain ⟨_ | key, d⟩ := m
  · exact .error _
  have found := mirrors.find?_answersTo key
  simp only [Layout.readMember]
  generalize l.fields.find? _ = f at found ⊢
  generalize l'.fields.find? _ = f' at found ⊢
  cases found with
  | none => exact .ok rfl
  | @some f f' same =>
    have seen : (p.map h).seen.contains f'.name = p.seen.contains f.name := by rw [same.name]; rfl
    simp only [seen]
    split
    · rw [same.name]
      exact .error _
    · refine (same.reads room d).bind fun set set' sets => ?_
      refine .ok ?_
      rw [same.name, Progress.map, sets]
      rfl

theorem readMembers (mirrors : l.Mirrors l' h) (ms : List (Option String × Doc)) :
    l'.readMembers ignore room ms = h <$> l.readMembers ignore room ms := by
  have start : (⟨l'.blank, []⟩ : Progress τ) = Progress.map h ⟨l.blank, []⟩ := by
    rw [mirrors.blank]
    rfl
  refine Alike.iff_eq_map.1 (.bind (R := fun p q => q = p.map h) (.foldlM ?_ start) ?_)
  · rintro m - p _ rfl
    exact mirrors.readMember m p
  · rintro p _ rfl
    rw [show (p.map h).seen = p.seen from rfl, mirrors.missing?]
    split
    · exact .error _
    · exact .ok rfl

end Mirrors

theorem readItems_mirrors {fs : List (FieldLayout σ)} {fs' : List (FieldLayout τ)}
    (fields : List.Forall₂ (FieldLayout.Mirrors h) fs fs') (ds : List Doc) (s : σ) :
    readItems room fs' ds (h s) = h <$> readItems room fs ds s := by
  induction fields generalizing ds s with
  | nil => cases ds <;> rfl
  | @cons f f' fs fs' same _ ih =>
    cases ds with
    | nil =>
      rw [readItems, readItems, same.required, ih]
      split <;> rfl
    | cons d ds =>
      refine Alike.iff_eq_map.1 ((same.reads room d).bind fun set set' sets => ?_)
      rw [sets, ih]
      exact Alike.iff_eq_map.2 rfl

namespace Mirrors

/-- A layout reads whatever the one reads that it mirrors. -/
theorem decoder (mirrors : l.Mirrors l' h) (room : Nat) (d : Doc) :
    l'.decoder room d = h <$> l.decoder room d := by
  unfold Layout.decoder
  split
  next ms =>
    split
    · rfl
    · exact mirrors.readMembers ms
  next xs =>
    split
    · rfl
    · rw [mirrors.blank, readItems_mirrors mirrors.fields]
  next => rfl

end Mirrors

end Layout

end GardenAdmin.Wire
