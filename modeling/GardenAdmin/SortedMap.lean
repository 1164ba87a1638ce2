/-!
# Maps in name order

A `SortedMap` lists its entries in strictly increasing name order, so two maps with the same look-ups
are equal (`SortedMap.ext_get?`). Names are compared by code point, which is the order of their bytes.
-/

namespace GardenAdmin

variable {α : Type}

/-- Entries in strictly increasing name order. -/
def Ordered (es : List (String × α)) : Prop := es.Pairwise (·.1 < ·.1)

instance (es : List (String × α)) : Decidable (Ordered es) :=
  inferInstanceAs (Decidable (es.Pairwise (·.1 < ·.1)))

structure SortedMap (α : Type) where
  entries : List (String × α)
  ordered : Ordered entries

namespace SortedMap

instance [DecidableEq α] : DecidableEq (SortedMap α) := fun a b =>
  if h : a.entries = b.entries then
    isTrue (by cases a; cases b; cases h; rfl)
  else isFalse fun e => h (e ▸ rfl)

instance [Repr α] : Repr (SortedMap α) := ⟨fun m n => reprPrec m.entries n⟩

def empty : SortedMap α := ⟨[], .nil⟩

instance : EmptyCollection (SortedMap α) := ⟨empty⟩

instance : Inhabited (SortedMap α) := ⟨empty⟩

def isEmpty (m : SortedMap α) : Bool := m.entries.isEmpty

def size (m : SortedMap α) : Nat := m.entries.length

def keys (m : SortedMap α) : List String := m.entries.map (·.1)

/-- The value under a name in a list of entries. -/
def find? (key : String) : List (String × α) → Option α
  | [] => none
  | e :: es => if e.1 = key then some e.2 else find? key es

def get? (m : SortedMap α) (key : String) : Option α := find? key m.entries

/-- The entries with the value under `key` replaced by what `f` makes of it. -/
def updateEntries (key : String) (f : Option α → α) : List (String × α) → List (String × α)
  | [] => [(key, f none)]
  | e :: es =>
    if key < e.1 then (key, f none) :: e :: es
    else if e.1 = key then (key, f (some e.2)) :: es
    else e :: updateEntries key f es

theorem mem_updateEntries {key : String} {f : Option α → α} {es : List (String × α)}
    {e : String × α} (h : e ∈ updateEntries key f es) : e.1 = key ∨ e ∈ es := by
  induction es with
  | nil => simp only [updateEntries, List.mem_singleton] at h; exact .inl (h ▸ rfl)
  | cons d ds ih =>
    simp only [updateEntries] at h
    split at h
    · rcases List.mem_cons.1 h with rfl | h
      · exact .inl rfl
      · exact .inr h
    · split at h
      · rcases List.mem_cons.1 h with rfl | h
        · exact .inl rfl
        · exact .inr (.tail _ h)
      · rcases List.mem_cons.1 h with rfl | h
        · exact .inr (.head _)
        · exact (ih h).imp_right (.tail _)

private theorem lt_of_ne_of_not_lt {a b : String} (h : ¬ a < b) (n : b ≠ a) : b < a :=
  String.not_le.1 fun g => n (String.le_antisymm (String.not_lt.1 h) g)

theorem ordered_updateEntries {key : String} {f : Option α → α} {es : List (String × α)}
    (h : Ordered es) : Ordered (updateEntries key f es) := by
  induction es with
  | nil => exact List.pairwise_singleton ..
  | cons d ds ih =>
    obtain ⟨hd, ht⟩ := List.pairwise_cons.1 h
    simp only [updateEntries]
    split
    · rename_i hlt
      refine List.pairwise_cons.2 ⟨fun e he => ?_, h⟩
      rcases List.mem_cons.1 he with rfl | he
      · exact hlt
      · exact String.lt_trans hlt (hd e he)
    · rename_i hlt
      split
      · rename_i heq
        exact List.pairwise_cons.2 ⟨fun e he => heq ▸ hd e he, ht⟩
      · rename_i hne
        refine List.pairwise_cons.2 ⟨fun e he => ?_, ih ht⟩
        rcases mem_updateEntries he with rfl | he
        · exact lt_of_ne_of_not_lt hlt hne
        · exact hd e he

/-- The map with the value under `key` replaced by what `f` makes of it. -/
def update (m : SortedMap α) (key : String) (f : Option α → α) : SortedMap α :=
  ⟨updateEntries key f m.entries, ordered_updateEntries m.ordered⟩

def insert (m : SortedMap α) (key : String) (a : α) : SortedMap α := m.update key fun _ => a

/-- The map without the entry of that name. -/
def erase (m : SortedMap α) (key : String) : SortedMap α :=
  ⟨m.entries.filter (·.1 ≠ key), m.ordered.filter _⟩

/-- Whether the map has an entry of that name. -/
def contains (m : SortedMap α) (key : String) : Bool := (m.get? key).isSome

/-- The map with every value of `n` brought in under its name, joined by `f` to what is there. -/
def mergeWith {β : Type} (f : Option α → β → α) (m : SortedMap α) (n : SortedMap β) : SortedMap α :=
  n.entries.foldl (fun acc (key, b) => acc.update key (f · b)) m

/-! ## Look-ups -/

theorem find?_eq_none_of_lt {key : String} {es : List (String × α)}
    (h : ∀ e ∈ es, key < e.1) : find? key es = none := by
  induction es with
  | nil => rfl
  | cons e es ih =>
    have hk := h e (.head _)
    have hn : e.1 ≠ key := fun g => String.lt_irrefl key (by rwa [g] at hk)
    rw [find?, if_neg hn]
    exact ih fun d hd => h d (.tail _ hd)

theorem find?_updateEntries (key k : String) (f : Option α → α) {es : List (String × α)}
    (h : Ordered es) :
    find? k (updateEntries key f es) = if k = key then some (f (find? key es)) else find? k es := by
  induction es with
  | nil =>
    by_cases hk : k = key
    · simp [updateEntries, find?, hk]
    · simp [updateEntries, find?, hk, Ne.symm hk]
  | cons d ds ih =>
    obtain ⟨hd, ht⟩ := List.pairwise_cons.1 h
    simp only [updateEntries]
    split
    · rename_i hlt
      have hn : find? key (d :: ds) = none := find?_eq_none_of_lt fun e he => by
        rcases List.mem_cons.1 he with rfl | he
        · exact hlt
        · exact String.lt_trans hlt (hd e he)
      rw [hn]
      by_cases hk : k = key
      · simp [find?, hk]
      · rw [find?, if_neg (Ne.symm hk), if_neg hk]
    · split
      · rename_i heq
        by_cases hk : k = key
        · simp [find?, hk, heq]
        · rw [find?, if_neg (Ne.symm hk), if_neg hk, find?, if_neg (heq ▸ Ne.symm hk)]
      · rename_i hne
        rw [find?, find?, find?, if_neg hne, ih ht]
        by_cases hk : k = key
        · subst hk; simp [hne]
        · simp [hk]

theorem get?_update (m : SortedMap α) (key k : String) (f : Option α → α) :
    (m.update key f).get? k = if k = key then some (f (m.get? key)) else m.get? k :=
  find?_updateEntries key k f m.ordered

theorem get?_insert (m : SortedMap α) (key k : String) (a : α) :
    (m.insert key a).get? k = if k = key then some a else m.get? k :=
  get?_update m key k _

theorem find?_filter_ne (key k : String) (es : List (String × α)) :
    find? k (es.filter (·.1 ≠ key)) = if k = key then none else find? k es := by
  induction es with
  | nil => simp [find?]
  | cons e es ih =>
    by_cases he : e.1 = key
    · rw [List.filter_cons_of_neg (by simp [he]), ih, find?]
      by_cases hk : k = key
      · simp [hk]
      · simp [hk, he, Ne.symm hk]
    · rw [List.filter_cons_of_pos (by simp [he]), find?, find?, ih]
      by_cases hk : k = key
      · subst hk; simp [he]
      · simp [hk]

theorem get?_erase (m : SortedMap α) (key k : String) :
    (m.erase key).get? k = if k = key then none else m.get? k :=
  find?_filter_ne key k m.entries

theorem find?_eq_some_iff {key : String} {a : α} {es : List (String × α)} (h : Ordered es) :
    find? key es = some a ↔ (key, a) ∈ es := by
  induction es with
  | nil => simp [find?]
  | cons e es ih =>
    obtain ⟨he, ht⟩ := List.pairwise_cons.1 h
    by_cases hk : e.1 = key
    · rw [find?, if_pos hk, List.mem_cons]
      constructor
      · intro ha
        exact .inl (Prod.ext hk.symm (Option.some.inj ha).symm)
      · rintro (e | hm)
        · rw [← e]
        · have lt := he (key, a) hm
          exact absurd (hk ▸ lt) (String.lt_irrefl key)
    · rw [find?, if_neg hk, ih ht, List.mem_cons]
      exact ⟨.inr, fun ha => ha.resolve_left fun ha => hk (ha ▸ rfl)⟩

theorem get?_foldl_update {β : Type} (f : Option α → β → α) {es : List (String × β)}
    (h : Ordered es) (m : SortedMap α) (k : String) :
    (es.foldl (fun acc (key, b) => acc.update key (f · b)) m).get? k =
      ((find? k es).map (f (m.get? k))).or (m.get? k) := by
  induction es generalizing m with
  | nil => rfl
  | cons e es ih =>
    obtain ⟨he, ht⟩ := List.pairwise_cons.1 h
    rw [List.foldl_cons, ih ht, get?_update, find?]
    by_cases hk : e.1 = k
    · -- later entries have greater names, so none of them is about `k`
      have absent : find? k es = none := find?_eq_none_of_lt fun d hd => hk ▸ he d hd
      simp [hk, absent]
    · simp [hk, Ne.symm hk]

theorem get?_mergeWith {β : Type} (f : Option α → β → α) (m : SortedMap α) (n : SortedMap β)
    (k : String) :
    (m.mergeWith f n).get? k = ((n.get? k).map (f (m.get? k))).or (m.get? k) :=
  get?_foldl_update f n.ordered m k

/-- The entries of a map are its look-ups. -/
theorem mem_entries_iff (m : SortedMap α) {key : String} {a : α} :
    (key, a) ∈ m.entries ↔ m.get? key = some a :=
  (find?_eq_some_iff m.ordered).symm

/-- Names come in order, each once. -/
theorem pairwise_keys (m : SortedMap α) : m.keys.Pairwise (· < ·) :=
  List.pairwise_map.2 m.ordered

theorem mem_keys_iff {m : SortedMap α} {key : String} :
    key ∈ m.keys ↔ (m.get? key).isSome := by
  rw [keys, List.mem_map, Option.isSome_iff_exists]
  constructor
  · rintro ⟨e, mem, rfl⟩
    exact ⟨e.2, m.mem_entries_iff.1 mem⟩
  · rintro ⟨a, found⟩
    exact ⟨(key, a), m.mem_entries_iff.2 found, rfl⟩

/-- Maps with values under the same names list the same names. -/
theorem keys_congr {β : Type} {m : SortedMap α} {n : SortedMap β}
    (h : ∀ key, (m.get? key).isSome = (n.get? key).isSome) : m.keys = n.keys := by
  have nodup {γ : Type} (m : SortedMap γ) : m.keys.Nodup := m.pairwise_keys.imp String.ne_of_lt
  have perm : m.keys.Perm n.keys := (List.perm_ext_iff_of_nodup (nodup m) (nodup n)).2 fun key => by
    rw [mem_keys_iff, mem_keys_iff, h]
  exact perm.eq_of_pairwise (fun _ _ _ _ lt gt => absurd gt (String.lt_asymm lt))
    m.pairwise_keys n.pairwise_keys

private theorem entries_eq_of_find?_eq {as bs : List (String × α)} (ha : Ordered as)
    (hb : Ordered bs) (h : ∀ k, find? k as = find? k bs) : as = bs := by
  induction as generalizing bs with
  | nil =>
    cases bs with
    | nil => rfl
    | cons b bs => simpa [find?] using h b.1
  | cons a as ih =>
    cases bs with
    | nil => simpa [find?] using h a.1
    | cons b bs =>
      obtain ⟨hda, hta⟩ := List.pairwise_cons.1 ha
      obtain ⟨hdb, htb⟩ := List.pairwise_cons.1 hb
      have hab : a.1 = b.1 := by
        refine String.le_antisymm (String.not_lt.1 fun g => ?_) (String.not_lt.1 fun g => ?_)
        · have := h b.1
          rw [find?_eq_none_of_lt fun e he => ?_] at this
          · simp [find?] at this
          · rcases List.mem_cons.1 he with rfl | he
            · exact g
            · exact String.lt_trans g (hda e he)
        · have := h a.1
          rw [eq_comm, find?_eq_none_of_lt fun e he => ?_] at this
          · simp [find?] at this
          · rcases List.mem_cons.1 he with rfl | he
            · exact g
            · exact String.lt_trans g (hdb e he)
      have hval : a.2 = b.2 := by simpa [find?, hab] using h a.1
      have hrest : as = bs := by
        refine ih hta htb fun k => ?_
        have hk := h k
        simp only [find?, hab] at hk
        by_cases e : b.1 = k
        · rw [find?_eq_none_of_lt fun d hd => e ▸ hab ▸ hda d hd,
            find?_eq_none_of_lt fun d hd => e ▸ hdb d hd]
        · simpa [e] using hk
      rw [hrest, show a = b from Prod.ext hab hval]

theorem ext_get? {a b : SortedMap α} (h : ∀ k, a.get? k = b.get? k) : a = b := by
  obtain ⟨as, ha⟩ := a
  obtain ⟨bs, hb⟩ := b
  obtain rfl := entries_eq_of_find?_eq ha hb h
  rfl

end SortedMap

end GardenAdmin
