import GardenAdmin.Proofs.Json.Canonical
import GardenAdmin.Wire.Layout

/-!
# Structures written and read back

A value `Carries` something if its text is read as its document and its document as that thing. What
a layout writes for a structure carries it if the fields, read one after the other, put it together
again (`Layout.carries_toValue`). `Layout.readMembers_induction` and `Layout.decoder_induction` are
the other way around: what every field that is read keeps holds of what comes of any document.
-/

namespace GardenAdmin.Wire

open GardenAdmin.Json

/-- The text of the value is read as its document, and its document as `a`. -/
structure Carries {α : Type} (read : Decoder α) (room : Nat) (v : Value) (a : α) : Prop where
  prints : v.Prints
  reads : read room v.toDoc = .ok a

section

variable {α : Type} {read : Decoder α} {room : Nat} {v : Value} {a : α}

theorem Carries.text_compact (h : Carries read maxDepth v a) :
    Decoder.text read v.compact = .ok a := by
  rw [Decoder.text, Value.read_compact h.prints]
  simp only [h.reads]
  rfl

theorem carries_string (room : Nat) (s : String) : Carries Decoder.string room (.string s) s :=
  ⟨Value.prints_string s, rfl⟩

theorem carries_bool (room : Nat) (b : Bool) : Carries Decoder.bool room (.bool b) b :=
  ⟨Value.prints_bool b, rfl⟩

/-- The signed integers of 64 bits. -/
def IsInt64 (n : Int) : Prop := Text.int64Range? n = some n

theorem isInt64_of_int64Range? {m n : Int} (range : Text.int64Range? m = some n) : IsInt64 n := by
  obtain ⟨-, e⟩ := Option.ite_none_right_eq_some.1 range
  cases e
  exact range

theorem IsInt64.inRange {n : Int} (h : IsInt64 n) : InRange n := by
  obtain ⟨⟨low, high⟩, -⟩ := Option.ite_none_right_eq_some.1 h
  exact ⟨low, Int.le_trans high (by decide)⟩

theorem carries_int64 (room : Nat) {n : Int} (range : IsInt64 n) :
    Carries Decoder.int64 room (.number (.int n)) n := by
  refine ⟨Value.prints_int range.inRange, ?_⟩
  rw [Value.toDoc, Decoder.int64, range]
  rfl

theorem carries_value {v : Value} (canonical : v.Canonical room)
    (back : ∀ x ∈ v.doubles, x.ReadsBack) : Carries Decoder.value room v v := by
  refine ⟨canonical.prints back, ?_⟩
  rw [Decoder.value, canonical.value?_toDoc]
  rfl

theorem string_ne_null (s : String) : Value.string s ≠ .null := by
  rintro ⟨⟩

theorem bool_ne_null (b : Bool) : Value.bool b ≠ .null := by
  rintro ⟨⟩

theorem number_ne_null (n : Number) : Value.number n ≠ .null := by
  rintro ⟨⟩

theorem carries_null : Carries read.optional room .null none := ⟨Value.prints_null, rfl⟩

theorem Carries.optional (h : Carries read room v a) (ne : v ≠ .null) :
    Carries read.optional room v (some a) := by
  refine ⟨h.prints, ?_⟩
  rw [Decoder.optional, h.reads]
  · rfl
  · intro e
    cases v <;> first | exact ne rfl | cases e

theorem mapM_toDocs {β : Type} {write : β → Value} {value : β → α} {bs : List β}
    (each : ∀ b ∈ bs, Carries read room (write b) (value b)) :
    (Value.toDocs (bs.map write)).mapM (read room) = .ok (bs.map value) := by
  induction bs with
  | nil => rfl
  | cons b bs ih =>
    rw [List.map_cons, Value.toDocs, List.mapM_cons, (each b (.head _)).reads,
      ih fun c mem => each c (.tail _ mem)]
    rfl

theorem carries_list {β : Type} {write : β → Value} {value : β → α} {bs : List β}
    (each : ∀ b ∈ bs, Carries read room (write b) (value b)) :
    Carries (Decoder.list read) (room + 1) (.array (bs.map write)) (bs.map value) := by
  refine ⟨Value.prints_array fun v mem => ?_, mapM_toDocs each⟩
  obtain ⟨b, member, rfl⟩ := List.mem_map.1 mem
  exact (each b member).prints

end

/-! ## Fields put together again -/

variable {σ : Type} {room : Nat} {s : σ}

/-- Read one after the other, what the fields of `s` write turns a structure into `s`. -/
inductive Rebuilds (room : Nat) (s : σ) : List (FieldLayout σ) → σ → Prop
  | done : Rebuilds room s [] s
  | absent {f : FieldLayout σ} {fs : List (FieldLayout σ)} {t : σ} (optional : f.required = false)
    (write : f.write s = none) (rest : Rebuilds room s fs t) : Rebuilds room s (f :: fs) t
  | present {f : FieldLayout σ} {fs : List (FieldLayout σ)} {t : σ} {v : Value} {set : σ → σ}
    (write : f.write s = some v) (carries : Carries f.read room v set)
    (rest : Rebuilds room s fs (set t)) : Rebuilds room s (f :: fs) t

namespace Rebuilds

variable {α : Type} {name : String} {write : α → Value} {read : Decoder α}
  {fs : List (FieldLayout σ)} {t : σ}

theorem carries_map {f : α → σ → σ} {read : Decoder α} {v : Value} {a : α}
    (carries : Carries read room v a) :
    Carries (fun room d => f <$> read room d) room v (f a) :=
  ⟨carries.prints, by rw [carries.reads]; rfl⟩

theorem optional {get : σ → Option α} {set : Option α → σ → σ}
    (carries : ∀ a, get s = some a → Carries read room (write a) a ∧ write a ≠ .null)
    (blank : set none t = t) (rest : Rebuilds room s fs (set (get s) t)) :
    Rebuilds room s (.optional name get set write read :: fs) t := by
  cases value : get s with
  | none =>
    rw [value, blank] at rest
    exact .absent rfl (congrArg (Option.map write) value) rest
  | some a =>
    rw [value] at rest
    obtain ⟨carries, ne⟩ := carries a value
    exact .present (congrArg (Option.map write) value) (carries_map (carries.optional ne)) rest

theorem nullable {get : σ → Option α} {set : Option α → σ → σ}
    (carries : ∀ a, get s = some a → Carries read room (write a) a ∧ write a ≠ .null)
    (rest : Rebuilds room s fs (set (get s) t)) :
    Rebuilds room s (.nullable name get set write read :: fs) t := by
  cases value : get s with
  | none =>
    rw [value] at rest
    exact .present (congrArg (fun a => some ((Option.map write a).getD .null)) value)
      (carries_map carries_null) rest
  | some a =>
    rw [value] at rest
    obtain ⟨carries, ne⟩ := carries a value
    exact .present (congrArg (fun a => some ((Option.map write a).getD .null)) value)
      (carries_map (carries.optional ne)) rest

theorem plain {get : σ → α} {set : α → σ → σ} (carries : Carries read room (write (get s)) (get s))
    (rest : Rebuilds room s fs (set (get s) t)) :
    Rebuilds room s (.plain name get set write read :: fs) t :=
  .present rfl (carries_map carries) rest

theorem mandatory {get : σ → α} {set : α → σ → σ}
    (carries : Carries read room (write (get s)) (get s))
    (rest : Rebuilds room s fs (set (get s) t)) :
    Rebuilds room s (.mandatory name get set write read :: fs) t :=
  .present rfl (carries_map carries) rest

end Rebuilds

/-! ## Reading by name -/

/-- No field answers to the name of a later one. -/
def IsWellNamed (fs : List (FieldLayout σ)) : Prop :=
  fs.Pairwise fun f g => f.answersTo g.name = false

instance (fs : List (FieldLayout σ)) : Decidable (IsWellNamed fs) :=
  inferInstanceAs (Decidable (fs.Pairwise _))

theorem FieldLayout.answersTo_name (f : FieldLayout σ) : f.answersTo f.name = true := by
  simp [answersTo]

theorem find?_name {fs : List (FieldLayout σ)} (named : IsWellNamed fs) {f : FieldLayout σ}
    (mem : f ∈ fs) : fs.find? (·.answersTo f.name) = some f := by
  induction fs with
  | nil => cases mem
  | cons g fs ih =>
    obtain ⟨first, named⟩ := List.pairwise_cons.1 named
    rcases List.mem_cons.1 mem with rfl | mem
    · exact List.find?_cons_of_pos f.answersTo_name
    · rw [List.find?_cons_of_neg (by rw [first f mem]; decide), ih named mem]

/-- The members that some of the fields write. -/
def written (s : σ) (fs : List (FieldLayout σ)) : List (String × Value) :=
  fs.filterMap fun f => (f.write s).map (f.name, ·)

theorem written_cons_of_none {f : FieldLayout σ} {fs : List (FieldLayout σ)}
    (write : f.write s = none) : written s (f :: fs) = written s fs := by
  rw [written, List.filterMap_cons_none (by rw [write]; rfl), written]

theorem written_cons_of_some {f : FieldLayout σ} {fs : List (FieldLayout σ)} {v : Value}
    (write : f.write s = some v) : written s (f :: fs) = (f.name, v) :: written s fs := by
  rw [written, List.filterMap_cons_some (b := (f.name, v)) (by rw [write]; rfl), written]

theorem map_fst_written_sublist (s : σ) (fs : List (FieldLayout σ)) :
    ((written s fs).map Prod.fst).Sublist (fs.map (·.name)) := by
  induction fs with
  | nil => exact .slnil
  | cons f fs ih =>
    cases write : f.write s with
    | none =>
      rw [written_cons_of_none write]
      exact ih.cons f.name
    | some v =>
      rw [written_cons_of_some write]
      exact ih.cons_cons f.name

theorem Rebuilds.prints {fs : List (FieldLayout σ)} {t : σ} (rebuilds : Rebuilds room s fs t) :
    ∀ m ∈ written s fs, m.2.Prints := by
  induction rebuilds with
  | done => exact List.forall_mem_nil _
  | absent _ write _ ih => rwa [written_cons_of_none write]
  | present write carries _ ih =>
    rw [written_cons_of_some write]
    exact List.forall_mem_cons.2 ⟨carries.prints, ih⟩

namespace Layout

variable {l : Layout σ} {stray : Stray σ} {fs : List (FieldLayout σ)} {t : σ} {seen : List String}

/-- Each member that is written is read by the field that wrote it. -/
theorem foldlM_written (stray : Stray σ) (named : IsWellNamed l.fields)
    (rebuilds : Rebuilds room s fs t) (known : fs ⊆ l.fields) (distinct : IsWellNamed fs)
    (new : ∀ f ∈ fs, f.name ∉ seen) :
    ∃ seen', (Value.toDocMembers (written s fs)).foldlM (l.readMember stray room) ⟨t, seen⟩ =
        .ok ⟨s, seen'⟩ ∧ seen ⊆ seen' ∧ ∀ f ∈ fs, f.required → f.name ∈ seen' := by
  induction rebuilds generalizing seen with
  | done => exact ⟨seen, rfl, List.Subset.refl seen, nofun⟩
  | @absent f fs t optional write _ ih =>
    obtain ⟨seen', fold, more, required⟩ := ih (fun g mem => known (.tail _ mem))
      (List.pairwise_cons.1 distinct).2 fun g mem => new g (.tail _ mem)
    rw [written_cons_of_none write]
    refine ⟨seen', fold, more, List.forall_mem_cons.2 ⟨fun r => ?_, required⟩⟩
    exact Bool.noConfusion (optional.symm.trans r)
  | @present f fs t v set write carries _ ih =>
    obtain ⟨first, distinct⟩ := List.pairwise_cons.1 distinct
    have unlike : ∀ g ∈ fs, g.name ≠ f.name := fun g mem e => by
      have answers := f.answersTo_name
      rw [← e, first g mem] at answers
      cases answers
    have newOthers : ∀ g ∈ fs, g.name ∉ f.name :: seen := fun g mem => by
      simp [unlike g mem, new g (.tail _ mem)]
    obtain ⟨seen', fold, more, required⟩ := ih (fun g mem => known (.tail _ mem)) distinct newOthers
    have read : l.readMember stray room ⟨t, seen⟩ (some f.name, v.toDoc) =
        .ok ⟨set t, f.name :: seen⟩ := by
      have unseen : seen.contains f.name = false := by simpa using new f (.head _)
      simp only [readMember, find?_name named (known (.head _)), unseen, carries.reads]
      rfl
    rw [written_cons_of_some write, Value.toDocMembers, List.foldlM_cons, read]
    refine ⟨seen', fold, fun n mem => more (.tail _ mem),
      List.forall_mem_cons.2 ⟨fun _ => ?_, required⟩⟩
    exact more (.head _)

theorem missing?_of_forall (required : ∀ f ∈ l.fields, f.required → f.name ∈ seen) :
    l.missing? seen = none := by
  rw [missing?, Option.map_eq_none_iff, List.find?_eq_none]
  intro f mem
  cases r : f.required with
  | false => simp
  | true => simp [required f mem r]

theorem toValue_ne_null (l : Layout σ) (s : σ) : l.toValue s ≠ .null := by
  rintro ⟨⟩

theorem readMembers_of_foldlM {room : Nat} {ms : List (Option String × Doc)}
    (fold : ms.foldlM (l.readMember stray room) ⟨l.blank, []⟩ = .ok ⟨s, seen⟩)
    (complete : l.missing? seen = none) : l.readMembers stray room ms = .ok s := by
  rw [readMembers, fold]
  simp only [Bind.bind, Except.bind, complete]

theorem carries_toValue (named : IsWellNamed l.fields)
    (rebuilds : Rebuilds room s l.fields l.blank) :
    Carries l.decoder (room + 1) (l.toValue s) s := by
  refine ⟨Value.prints_object rebuilds.prints, ?_⟩
  obtain ⟨seen, fold, -, required⟩ := foldlM_written ignore named rebuilds (List.Subset.refl _)
    named fun _ _ => List.not_mem_nil
  rw [toValue, Value.toDoc, decoder, if_neg (Nat.succ_ne_zero room), Nat.add_sub_cancel]
  exact readMembers_of_foldlM fold (missing?_of_forall required)

end Layout

/-! ## What every document leaves -/

section

variable {ε α β : Type} {x : Except ε α} {b : β}

theorem bind_eq_ok_iff {f : α → Except ε β} :
    x >>= f = .ok b ↔ ∃ a, x = .ok a ∧ f a = .ok b := by
  cases x with
  | error e => exact ⟨nofun, fun ⟨_, e, _⟩ => nomatch e⟩
  | ok a =>
    constructor
    · exact fun e => ⟨a, rfl, e⟩
    · rintro ⟨_, ⟨⟩, e⟩
      exact e

theorem map_eq_ok_iff {f : α → β} : f <$> x = .ok b ↔ ∃ a, x = .ok a ∧ f a = b := by
  cases x with
  | error e => exact ⟨nofun, fun ⟨_, e, _⟩ => nomatch e⟩
  | ok a =>
    constructor
    · rintro ⟨⟩
      exact ⟨a, rfl, rfl⟩
    · rintro ⟨_, ⟨⟩, rfl⟩
      rfl

theorem mapM_eq_ok_iff {f : α → Except ε β} {as : List α} {bs : List β} :
    as.mapM f = .ok bs ↔ List.Forall₂ (fun a b => f a = .ok b) as bs := by
  induction as generalizing bs with
  | nil =>
    rw [List.mapM_nil]
    constructor
    · rintro ⟨⟩
      exact .nil
    · rintro ⟨⟩
      rfl
  | cons a as ih =>
    rw [List.mapM_cons, bind_eq_ok_iff]
    constructor
    · rintro ⟨b, first, rest⟩
      obtain ⟨bs, others, ⟨⟩⟩ := bind_eq_ok_iff.1 rest
      exact .cons first (ih.1 others)
    · rintro (_ | ⟨first, rest⟩)
      exact ⟨_, first, bind_eq_ok_iff.2 ⟨_, ih.2 rest, rfl⟩⟩

end

theorem value_eq_ok_iff {d : Doc} {v : Value} :
    Decoder.value room d = .ok v ↔ d.value? room = some v := by
  rw [Decoder.value]
  cases d.value? room with
  | none => exact ⟨nofun, nofun⟩
  | some w =>
    exact ⟨fun e => congrArg some (Except.ok.inj e), fun e => congrArg _ (Option.some.inj e)⟩

theorem text_eq_ok_iff {α : Type} {read : Decoder α} {t : String} {a : α} :
    Decoder.text read t = .ok a ↔
      read maxDepth (JsonText.read t).doc = .ok a ∧ (JsonText.read t).isWhole := by
  rw [Decoder.text, bind_eq_ok_iff]
  cases (JsonText.read t).isWhole with
  | false => exact ⟨nofun, nofun⟩
  | true =>
    constructor
    · rintro ⟨_, done, ⟨⟩⟩
      exact ⟨done, rfl⟩
    · rintro ⟨done, -⟩
      exact ⟨a, done, rfl⟩

/-- Reading the field keeps the property. -/
def FieldLayout.Keeps (f : FieldLayout σ) (room : Nat) (P : σ → Prop) : Prop :=
  ∀ d set, d.Proper → f.read room d = .ok set → ∀ t, P t → P (set t)

theorem keeps_of_read {α : Type} {f : FieldLayout σ} {P : σ → Prop} {read : Decoder α}
    {set : α → σ → σ} (shape : f.read = fun room d => set <$> read room d)
    (keeps : ∀ d a, d.Proper → read room d = .ok a → ∀ t, P t → P (set a t)) :
    f.Keeps room P := by
  intro d set' proper done
  rw [shape] at done
  obtain ⟨a, value, rfl⟩ := map_eq_ok_iff.1 done
  exact keeps d a proper value

theorem eq_some_of_optional {α : Type} {read : Decoder α} {d : Doc} {a : α}
    (done : read.optional room d = .ok (some a)) : read room d = .ok a := by
  unfold Decoder.optional at done
  split at done
  next => cases done
  next =>
    obtain ⟨b, value, e⟩ := map_eq_ok_iff.1 done
    cases e
    exact value

namespace Layout

variable {l : Layout σ} {stray : Stray σ} {P : σ → Prop}

/-- A member is read by the field that answers to its name, unless that field was seen before, or as a
stray if there is none. -/
theorem readMember_cases {m : Option String × Doc} {p p' : Progress σ}
    (read : l.readMember stray room p m = .ok p') : ∃ key set, m.1 = some key ∧
      ((∃ f, l.fields.find? (·.answersTo key) = some f ∧ f.name ∉ p.seen ∧
          f.read room m.2 = .ok set ∧ p' = ⟨set p.state, f.name :: p.seen⟩) ∨
        (l.fields.find? (·.answersTo key) = none ∧ stray key room m.2 = .ok set ∧
          p' = ⟨set p.state, p.seen⟩)) := by
  obtain ⟨_ | key, d⟩ := m
  · cases read
  simp only [readMember] at read
  split at read
  next f found =>
    split at read
    next => cases read
    next new =>
      obtain ⟨set, done, e⟩ := bind_eq_ok_iff.1 read
      cases e
      exact ⟨key, set, rfl, .inl ⟨f, found, by simpa using new, done, rfl⟩⟩
  next none =>
    obtain ⟨set, done, e⟩ := bind_eq_ok_iff.1 read
    cases e
    exact ⟨key, set, rfl, .inr ⟨none, done, rfl⟩⟩

theorem readMember_keeps (keeps : ∀ f ∈ l.fields, f.Keeps room P)
    (strays : ∀ key d set, d.Proper → stray key room d = .ok set → ∀ t, P t → P (set t))
    {m : Option String × Doc} (proper : m.2.Proper) {p p' : Progress σ}
    (read : l.readMember stray room p m = .ok p') (start : P p.state) : P p'.state := by
  obtain ⟨key, set, -, ⟨f, found, -, done, rfl⟩ | ⟨-, done, rfl⟩⟩ := readMember_cases read
  · exact keeps f (List.mem_of_find?_eq_some found) m.2 set proper done _ start
  · exact strays key m.2 set proper done _ start

theorem foldlM_keeps (keeps : ∀ f ∈ l.fields, f.Keeps room P)
    (strays : ∀ key d set, d.Proper → stray key room d = .ok set → ∀ t, P t → P (set t))
    {ms : List (Option String × Doc)} (proper : ∀ m ∈ ms, m.2.Proper) {p p' : Progress σ}
    (start : P p.state) (read : ms.foldlM (l.readMember stray room) p = .ok p') : P p'.state := by
  induction ms generalizing p with
  | nil =>
    cases read
    exact start
  | cons m ms ih =>
    rw [List.foldlM_cons] at read
    obtain ⟨q, first, others⟩ := bind_eq_ok_iff.1 read
    exact ih (fun m' mem => proper m' (.tail _ mem))
      (readMember_keeps keeps strays (proper m (.head _)) first start) others

theorem readMembers_induction (blank : P l.blank) (keeps : ∀ f ∈ l.fields, f.Keeps room P)
    (strays : ∀ key d set, d.Proper → stray key room d = .ok set → ∀ t, P t → P (set t))
    {ms : List (Option String × Doc)} (proper : ∀ m ∈ ms, m.2.Proper)
    (read : l.readMembers stray room ms = .ok s) : P s := by
  obtain ⟨p, members, e⟩ := bind_eq_ok_iff.1 read
  split at e
  next => cases e
  next =>
    cases e
    exact foldlM_keeps keeps strays proper blank members

theorem readItems_induction {fs : List (FieldLayout σ)} (keeps : ∀ f ∈ fs, f.Keeps room P)
    {ds : List Doc} (proper : ∀ d ∈ ds, d.Proper) {t : σ} (start : P t)
    (read : readItems room fs ds t = .ok s) : P s := by
  induction fs generalizing ds t with
  | nil =>
    cases ds with
    | nil =>
      cases read
      exact start
    | cons d ds => cases read
  | cons f fs ih =>
    have keepsRest : ∀ g ∈ fs, g.Keeps room P := fun g mem => keeps g (.tail _ mem)
    cases ds with
    | nil =>
      rw [readItems] at read
      split at read
      next => cases read
      next => exact ih keepsRest proper start read
    | cons d ds =>
      obtain ⟨set, first, others⟩ := bind_eq_ok_iff.1 read
      exact ih keepsRest (fun d' mem => proper d' (.tail _ mem))
        (keeps f (.head _) d set (proper d (.head _)) first t start) others

theorem decoder_induction (blank : P l.blank) (keeps : ∀ f ∈ l.fields, f.Keeps (room - 1) P)
    {d : Doc} (proper : d.Proper) (read : l.decoder room d = .ok s) : P s := by
  unfold decoder at read
  split at read
  next ms =>
    split at read
    next => cases read
    next =>
      cases proper with
      | object proper =>
        refine readMembers_induction blank keeps ?_ proper read
        rintro key d set - ⟨⟩ t start
        exact start
  next xs =>
    split at read
    next => cases read
    next =>
      cases proper with
      | array proper => exact readItems_induction keeps proper blank read
  next => cases read

end Layout

end GardenAdmin.Wire
