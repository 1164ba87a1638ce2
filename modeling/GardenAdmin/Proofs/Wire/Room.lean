import GardenAdmin.Proofs.Wire.Layout

/-!
# Room enough is all that counts

A decoder is told how many arrays and objects may still be open. The document of a value that comes
from a text has no more than that, and the decoders put together here read it the same whatever room
there is beyond (`Steady`). So a value in memory is read like its document in a text.
-/

namespace GardenAdmin

open Json Wire

/-! ## The depth of a value -/

namespace Json.Value

theorem depthItems_le_iff {xs : List Value} {n : Nat} :
    depthItems xs ≤ n ↔ ∀ x ∈ xs, x.depth ≤ n := by
  induction xs with
  | nil => simp [depthItems]
  | cons x xs ih => rw [depthItems, Nat.max_le, ih, List.forall_mem_cons]

theorem depthMembers_le_iff {ms : List (String × Value)} {n : Nat} :
    depthMembers ms ≤ n ↔ ∀ m ∈ ms, m.2.depth ≤ n := by
  induction ms with
  | nil => simp [depthMembers]
  | cons m ms ih => rw [depthMembers, Nat.max_le, ih, List.forall_mem_cons]

namespace Canonical

variable {room room' : Nat} {v : Value}

theorem depth_le (h : v.Canonical room) : v.depth ≤ room := by
  induction h with
  | null | bool | number | string => exact Nat.zero_le _
  | array _ ih => exact Nat.succ_le_succ (depthItems_le_iff.2 ih)
  | object _ _ ih => exact Nat.succ_le_succ (depthMembers_le_iff.2 ih)

/-- Any room will do that is not less than the depth. -/
theorem of_depth_le (h : v.Canonical room) (enough : v.depth ≤ room') : v.Canonical room' := by
  induction h generalizing room' with
  | null => exact .null room'
  | bool _ b => exact .bool room' b
  | number _ range => exact .number room' range
  | string _ s => exact .string room' s
  | array _ ih =>
    cases room' with
    | zero => cases enough
    | succ room' =>
      have enough := depthItems_le_iff.1 (Nat.le_of_succ_le_succ enough)
      exact .array fun x mem => ih x mem (enough x mem)
  | object distinct _ ih =>
    cases room' with
    | zero => cases enough
    | succ room' =>
      have enough := depthMembers_le_iff.1 (Nat.le_of_succ_le_succ enough)
      exact .object distinct fun m mem => ih m mem (enough m mem)

end Canonical

end Json.Value

/-! ## Decoders that only need room enough -/

namespace Wire

/-- Room beyond what the value needs makes no difference. -/
def Steady {α : Type} (read : Decoder α) : Prop :=
  ∀ v room room', Value.Canonical room v → Value.Canonical room' v →
    read room v.toDoc = read room' v.toDoc

section

variable {α β : Type} {read : Decoder α}

/-- A value in memory is read as its document is in a text. -/
theorem Steady.ofValue_eq (h : Steady read) {v : Value} {room room' : Nat}
    (canonical : v.Canonical room) (enough : room ≤ room') :
    Decoder.ofValue read v = read room' v.toDoc :=
  h v _ _ (canonical.of_depth_le (Nat.le_refl _))
    (canonical.of_depth_le (Nat.le_trans canonical.depth_le enough))

theorem steady_string : Steady Decoder.string := by
  intro v room room' _ _
  cases v <;> rfl

theorem steady_bool : Steady Decoder.bool := by
  intro v room room' _ _
  cases v <;> rfl

theorem steady_value : Steady Decoder.value := by
  intro v room room' h h'
  rw [Decoder.value, Decoder.value, h.value?_toDoc, h'.value?_toDoc]

theorem Steady.map (h : Steady read) (f : α → β) : Steady fun room d => f <$> read room d := by
  intro v room room' canonical canonical'
  exact congrArg (f <$> ·) (h v room room' canonical canonical')

theorem Steady.optional (h : Steady read) : Steady read.optional := by
  intro v room room' canonical canonical'
  cases v with
  | null => rfl
  | _ => exact congrArg (some <$> ·) (h _ room room' canonical canonical')

theorem mapM_toDocs_congr {f g : Doc → Except DecodeError α} {xs : List Value}
    (same : ∀ x ∈ xs, f x.toDoc = g x.toDoc) :
    (Value.toDocs xs).mapM f = (Value.toDocs xs).mapM g := by
  induction xs with
  | nil => rfl
  | cons x xs ih =>
    rw [Value.toDocs, List.mapM_cons, List.mapM_cons, same x (.head _),
      ih fun y mem => same y (.tail _ mem)]

theorem mapM_toDocMembers_congr {f g : Option String × Doc → Except DecodeError α}
    {ms : List (String × Value)}
    (same : ∀ m ∈ ms, f (some m.1, m.2.toDoc) = g (some m.1, m.2.toDoc)) :
    (Value.toDocMembers ms).mapM f = (Value.toDocMembers ms).mapM g := by
  induction ms with
  | nil => rfl
  | cons m ms ih =>
    rw [Value.toDocMembers, List.mapM_cons, List.mapM_cons, same m (.head _),
      ih fun m' mem => same m' (.tail _ mem)]

theorem Steady.list (h : Steady read) : Steady (Decoder.list read) := by
  intro v room room' canonical canonical'
  cases canonical with
  | array items =>
    cases canonical' with
    | array items' => exact mapM_toDocs_congr fun x mem => h x _ _ (items x mem) (items' x mem)
  | _ => rfl

end

namespace Layout

variable {σ : Type} {l : Layout σ} {stray : Stray σ} {room room' : Nat}

theorem readMember_congr (fields : ∀ f ∈ l.fields, Steady f.read)
    (strays : ∀ key, Steady (stray key)) (p : Progress σ) (key : String) {v : Value}
    (canonical : v.Canonical room) (canonical' : v.Canonical room') :
    l.readMember stray room p (some key, v.toDoc) =
      l.readMember stray room' p (some key, v.toDoc) := by
  simp only [readMember]
  split
  · next f found =>
    rw [fields f (List.mem_of_find?_eq_some found) v _ _ canonical canonical']
  · rw [strays key v _ _ canonical canonical']

theorem readMembers_congr (fields : ∀ f ∈ l.fields, Steady f.read)
    (strays : ∀ key, Steady (stray key)) {ms : List (String × Value)}
    (canonical : ∀ m ∈ ms, m.2.Canonical room) (canonical' : ∀ m ∈ ms, m.2.Canonical room') :
    l.readMembers stray room (Value.toDocMembers ms) =
      l.readMembers stray room' (Value.toDocMembers ms) := by
  have fold (p : Progress σ) : (Value.toDocMembers ms).foldlM (l.readMember stray room) p =
      (Value.toDocMembers ms).foldlM (l.readMember stray room') p := by
    induction ms generalizing p with
    | nil => rfl
    | cons m ms ih =>
      rw [Value.toDocMembers, List.foldlM_cons, List.foldlM_cons,
        readMember_congr fields strays p m.1 (canonical m (.head _)) (canonical' m (.head _))]
      exact bind_congr fun q => ih (fun m' mem => canonical m' (.tail _ mem))
        (fun m' mem => canonical' m' (.tail _ mem)) q
  rw [readMembers, readMembers, fold]

theorem readItems_congr {fs : List (FieldLayout σ)} (fields : ∀ f ∈ fs, Steady f.read)
    {xs : List Value} (canonical : ∀ x ∈ xs, x.Canonical room)
    (canonical' : ∀ x ∈ xs, x.Canonical room') (s : σ) :
    readItems room fs (Value.toDocs xs) s = readItems room' fs (Value.toDocs xs) s := by
  induction fs generalizing xs s with
  | nil => cases xs <;> rfl
  | cons f fs ih =>
    have ih := @ih fun g mem => fields g (.tail _ mem)
    cases xs with
    | nil =>
      simp only [Value.toDocs, readItems]
      split
      · rfl
      · exact ih (List.forall_mem_nil _) (List.forall_mem_nil _) s
    | cons x xs =>
      rw [Value.toDocs, readItems, readItems,
        fields f (.head _) x _ _ (canonical x (.head _)) (canonical' x (.head _))]
      exact bind_congr fun set => ih (fun y mem => canonical y (.tail _ mem))
        (fun y mem => canonical' y (.tail _ mem)) (set s)

theorem steady_decoder (fields : ∀ f ∈ l.fields, Steady f.read) : Steady l.decoder := by
  intro v room room' canonical canonical'
  cases canonical with
  | array items =>
    cases canonical' with
    | array items' => exact readItems_congr fields items items' l.blank
  | object _ members =>
    cases canonical' with
    | object _ members' =>
      exact readMembers_congr fields (fun _ _ _ _ _ _ => rfl) members members'
  | _ => rfl

end Layout

end Wire

end GardenAdmin
