import GardenAdmin.Proofs.Events.Registrations

/-!
# What a handle stands for

A registration gets its handle when it draws its generation, and stores its callback some time later,
once (`Callbacks.StoresOnce`). So the history of a run alone says whether the registration of a handle
is in force: it was stored, and nothing has displaced it since (`Handle.InForce`). Unsubscribing takes
away just such a registration (`Registry.unsubscribe_of_run?`).
-/

namespace GardenAdmin

/-! ## Registrations are stored once -/

def Action.stores? : Action → Option Handle
  | .store handle => some handle
  | _ => none

/-- The handles of the registrations that were stored, in the order of the stores. -/
def stores (history : List Action) : List Handle := history.filterMap Action.stores?

theorem mem_stores_iff {history : List Action} {h : Handle} :
    h ∈ stores history ↔ .store h ∈ history := by
  rw [stores, List.mem_filterMap]
  constructor
  · rintro ⟨a, mem, same⟩
    cases a <;> cases same
    exact mem
  · exact fun mem => ⟨.store h, mem, rfl⟩

namespace Callbacks

@[simp]
theorem drawn_unsubscribe (c : Callbacks) (h : Handle) : (c.unsubscribe h).2.drawn = c.drawn := by
  unfold unsubscribe
  split <;> rfl

@[simp]
theorem nextGeneration_unsubscribe (c : Callbacks) (h : Handle) :
    (c.unsubscribe h).2.nextGeneration = c.nextGeneration := by
  unfold unsubscribe
  split <;> rfl

/-- No registration was stored twice, and one that waits to be stored was not stored before. -/
structure StoresOnce (c : Callbacks) (history : List Action) : Prop where
  nodup : (stores history).Nodup
  drawn : ∀ h ∈ stores history, h.generation < c.nextGeneration
  waiting : ∀ p ∈ c.drawn, p.1 ∉ stores history

namespace StoresOnce

variable {c d : Callbacks} {history : List Action} {a : Action}

/-- An action that stores nothing. -/
theorem of_not_stores (h : c.StoresOnce history) (quiet : a.stores? = none)
    (count : c.nextGeneration ≤ d.nextGeneration)
    (waiting : ∀ p ∈ d.drawn, p ∈ c.drawn ∨ c.nextGeneration ≤ p.1.generation) :
    d.StoresOnce (history ++ [a]) := by
  have same : stores (history ++ [a]) = stores history := by
    simp [stores, quiet]
  refine ⟨?_, ?_, ?_⟩ <;> rw [same]
  · exact h.nodup
  · exact fun handle mem => Nat.lt_of_lt_of_le (h.drawn handle mem) count
  · intro p mem stored
    rcases waiting p mem with old | new
    · exact h.waiting p old stored
    · exact Nat.not_lt.2 new (h.drawn p.1 stored)

theorem store (h : c.StoresOnce history) {handle : Handle} (follows : c.Follows history)
    (stored : c.store? handle = some d) : d.StoresOnce (history ++ [.store handle]) := by
  obtain ⟨callback, waited, rfl⟩ := exists_of_store? stored
  have grown : stores (history ++ [.store handle]) = stores history ++ [handle] := by
    simp [stores, Action.stores?]
  have small : handle.generation < c.nextGeneration := by
    rw [follows.count]
    exact (List.getElem?_eq_some_iff.1 (follows.drawn waited)).1
  refine ⟨?_, ?_, ?_⟩ <;> rw [grown]
  · refine List.nodup_append.2 ⟨h.nodup, List.pairwise_singleton .., fun old mem new same => ?_⟩
    rw [List.mem_singleton.1 same]
    rintro rfl
    exact h.waiting _ waited mem
  · intro other mem
    rcases List.mem_append.1 mem with mem | mem
    · exact h.drawn other mem
    · exact List.mem_singleton.1 mem ▸ small
  · intro p mem both
    obtain ⟨old, ne⟩ := List.mem_filter.1 mem
    rcases List.mem_append.1 both with before | now
    · exact h.waiting p old before
    · exact of_decide_eq_true ne (List.mem_singleton.1 now)

theorem step {r s : Registry} (h : r.callbacks.StoresOnce history)
    (follows : r.callbacks.Follows history) (step : Registry.Step a r s) :
    s.callbacks.StoresOnce (history ++ [a]) := by
  cases step with
  | store stored => exact h.store follows stored
  | draw _ name callback =>
    refine h.of_not_stores rfl (Nat.le_succ _) fun p mem => ?_
    rcases List.mem_append.1 mem with old | new
    · exact .inl old
    · cases List.mem_singleton.1 new
      exact .inr (Nat.le_refl _)
  | unsubscribe _ handle =>
    refine h.of_not_stores rfl (nextGeneration_unsubscribe ..).ge fun p mem => .inl ?_
    rwa [← drawn_unsubscribe r.callbacks handle]
  | _ => exact h.of_not_stores rfl (Nat.le_refl _) fun _ mem => .inl mem

end StoresOnce

theorem storesOnce_of_run? {url : String} {capacity : Nat} {s : Registry} {actions : List Action}
    (run : (Registry.fresh url capacity).run? actions = some s) :
    s.callbacks.StoresOnce actions := by
  refine Registry.run?_induction (P := fun history s => s.callbacks.StoresOnce history) ?_ ?_ run
  · exact ⟨List.nodup_nil, List.forall_mem_nil _, List.forall_mem_nil _⟩
  · intro before a mid next hm h step
    exact h.step (follows_of_run? hm) step

end Callbacks

/-! ## The registration of a handle -/

/-- The registration of the handle was stored, and nothing has displaced it since. -/
def Handle.InForce (h : Handle) (history : List Action) : Prop :=
  ∃ callback, Registered history h.name ⟨h.generation, callback⟩

/-- The handle is that of a registration of the history, stored or not. -/
def Handle.IsIssued (h : Handle) (history : List Action) : Prop :=
  ∃ callback, (draws history)[h.generation]? = some (h.name, callback)

section

variable {history earlier later : List Action} {h : Handle}

theorem draws_append (earlier later : List Action) :
    draws (earlier ++ later) = draws earlier ++ draws later :=
  List.filterMap_append

theorem stores_append (earlier later : List Action) :
    stores (earlier ++ later) = stores earlier ++ stores later :=
  List.filterMap_append

theorem Handle.IsIssued.lt (issued : h.IsIssued history) : h.generation < (draws history).length :=
  have ⟨_, drew⟩ := issued
  (List.getElem?_eq_some_iff.1 drew).1

theorem Handle.InForce.isIssued (current : h.InForce history) : h.IsIssued history := by
  obtain ⟨callback, earlier, later, rfl, drew, -⟩ := current
  refine ⟨callback, ?_⟩
  rw [draws_append, List.getElem?_append_left (List.getElem?_eq_some_iff.1 drew).1]
  exact drew

theorem Handle.InForce.exists_store (current : h.InForce history) :
    ∃ earlier later, history = earlier ++ .store h :: later := by
  obtain ⟨callback, earlier, later, e, -⟩ := current
  exact ⟨earlier, later, e⟩

/-- A registration is stored at one place only, so what comes after that place decides. -/
theorem Handle.not_inForce_of_displaced (once : (stores history).Nodup)
    (split : history = earlier ++ .store h :: later)
    (displaced : .remove h.name ∈ later ∨ .unsubscribe h ∈ later ∨ ∃ g, .store ⟨h.name, g⟩ ∈ later) :
    ¬h.InForce history := by
  rintro ⟨callback, earlier', later', e, -, kept⟩
  rw [split, stores_append] at once
  obtain ⟨-, others, apart⟩ := List.nodup_append.1 once
  have before : .store h ∉ earlier := fun old =>
    apart h (mem_stores_iff.2 old) h (.head _) rfl
  have after : .store h ∉ later := fun new =>
    (List.nodup_cons.1 others).1 (mem_stores_iff.2 new)
  obtain ⟨rfl, -, rfl⟩ := (List.append_cons_inj_of_notMem before after).1 (split.symm.trans e)
  obtain mem | mem | ⟨g, mem⟩ := displaced
  · exact kept _ mem (.inl rfl)
  · exact kept _ mem (.inr (.inl rfl))
  · exact kept _ mem (.inr (.inr ⟨g, rfl⟩))

end

namespace Callbacks

variable {c : Callbacks} {history : List Action} {h : Handle}

theorem isCurrent_iff : c.isCurrent h ↔ ∃ reg, c.stored.get? h.name = some reg ∧
    reg.generation = h.generation := by
  simp [isCurrent, Option.any_eq_true]

theorem Follows.isCurrent_iff (follows : c.Follows history) :
    c.isCurrent h ↔ h.InForce history := by
  rw [Callbacks.isCurrent_iff]
  constructor
  · rintro ⟨⟨generation, callback⟩, stored, rfl⟩
    exact ⟨callback, follows.stored.1 stored⟩
  · rintro ⟨callback, registered⟩
    exact ⟨_, follows.stored.2 registered, rfl⟩

theorem fst_unsubscribe (c : Callbacks) (h : Handle) : (c.unsubscribe h).1 = c.isCurrent h := by
  unfold unsubscribe
  split <;> simp_all

theorem unsubscribe_of_isCurrent (current : c.isCurrent h) :
    c.unsubscribe h = (true, { c with stored := c.stored.erase h.name }) := if_pos current

theorem unsubscribe_of_not_isCurrent (stale : ¬c.isCurrent h) : c.unsubscribe h = (false, c) :=
  if_neg stale

end Callbacks

/-- Generations of 64 bits are told apart as long as there are no more than fit into them. -/
theorem ofNat_generation_inj {m n : Nat} (hm : m < UInt64.size) (hn : n < UInt64.size) :
    UInt64.ofNat m = UInt64.ofNat n ↔ m = n := by
  rw [← UInt64.toNat_inj, UInt64.toNat_ofNat_of_lt' hm, UInt64.toNat_ofNat_of_lt' hn]

namespace Registry

variable {url : String} {capacity : Nat} {s : Registry} {actions : List Action}

/-- However registrations, removals and unsubscriptions take turns, a handle is the number of its
registration among all, with its name. Unsubscribing succeeds exactly if that registration is in force,
and then removes it alone; otherwise it changes nothing. So it fails once the registration was
displaced, by a later one or in whatever other way, and succeeds once at most. A removal by name
succeeds exactly if some registration is in force under the name. It makes no difference that
generations are kept in 64 bits, until there were more registrations than these can count. -/
theorem unsubscribe_of_run? (run : (fresh url capacity).run? actions = some s) :
    (∀ earlier name callback later, actions = earlier ++ .draw name callback :: later →
      ∃ mid, (fresh url capacity).run? earlier = some mid ∧
        (mid.callbacks.draw name callback).1 = ⟨name, (draws earlier).length⟩) ∧
    (∀ h : Handle, ((s.callbacks.unsubscribe h).1 ↔ h.InForce actions) ∧
      (h.InForce actions → ∃ c, s.callbacks.unsubscribe h = (true, c) ∧
        c.drawn = s.callbacks.drawn ∧ c.nextGeneration = s.callbacks.nextGeneration ∧
        ∀ name, c.stored.get? name =
          if name = h.name then none else s.callbacks.stored.get? name) ∧
      (¬h.InForce actions → s.callbacks.unsubscribe h = (false, s.callbacks))) ∧
    (∀ (h : Handle) earlier later, actions = earlier ++ .store h :: later →
      (.remove h.name ∈ later ∨ .unsubscribe h ∈ later ∨ ∃ g, .store ⟨h.name, g⟩ ∈ later) →
      s.callbacks.unsubscribe h = (false, s.callbacks)) ∧
    (∀ (h : Handle) earlier mid later, actions = earlier ++ .unsubscribe h :: later →
      (fresh url capacity).run? earlier = some mid → (mid.callbacks.unsubscribe h).1 →
      s.callbacks.unsubscribe h = (false, s.callbacks)) ∧
    (∀ name, (s.callbacks.remove name).1 ↔ ∃ reg, Registered actions name reg) ∧
    ((draws actions).length ≤ UInt64.size → ∀ h : Handle, h.IsIssued actions →
      ((s.callbacks.unsubscribe h).1 ↔ ∃ reg, s.callbacks.stored.get? h.name = some reg ∧
        UInt64.ofNat reg.generation = UInt64.ofNat h.generation)) := by
  have follows := Callbacks.follows_of_run? run
  have once := (Callbacks.storesOnce_of_run? run).nodup
  have stale {h : Handle} (displaced : ¬h.InForce actions) :
      s.callbacks.unsubscribe h = (false, s.callbacks) :=
    Callbacks.unsubscribe_of_not_isCurrent (mt follows.isCurrent_iff.1 displaced)
  have ended {h : Handle} {earlier later : List Action}
      (split : actions = earlier ++ .store h :: later)
      (displaced : .remove h.name ∈ later ∨ .unsubscribe h ∈ later ∨
        ∃ g, .store ⟨h.name, g⟩ ∈ later) :
      s.callbacks.unsubscribe h = (false, s.callbacks) :=
    stale (Handle.not_inForce_of_displaced once split displaced)
  refine ⟨?_, fun h => ⟨?_, fun current => ?_, stale⟩, fun h earlier later => ended, ?_, ?_, ?_⟩
  · rintro earlier name callback later rfl
    obtain ⟨mid, hm, -⟩ := run?_append run
    refine ⟨mid, hm, ?_⟩
    rw [← (Callbacks.follows_of_run? hm).count]
    rfl
  · rw [Callbacks.fst_unsubscribe]
    exact follows.isCurrent_iff
  · refine ⟨_, Callbacks.unsubscribe_of_isCurrent (follows.isCurrent_iff.2 current), rfl, rfl, ?_⟩
    exact SortedMap.get?_erase s.callbacks.stored h.name
  · rintro h earlier mid later rfl hm succeeded
    rw [Callbacks.fst_unsubscribe, (Callbacks.follows_of_run? hm).isCurrent_iff] at succeeded
    obtain ⟨before, between, rfl⟩ := succeeded.exists_store
    rw [List.append_assoc, List.cons_append] at ended
    exact ended rfl (.inr (.inl (List.mem_append_right _ (.head _))))
  · intro name
    simp only [Callbacks.remove, SortedMap.contains, Option.isSome_iff_exists, follows.stored]
  · intro few h issued
    rw [Callbacks.fst_unsubscribe, Callbacks.isCurrent_iff]
    refine exists_congr fun reg => and_congr_right fun stored => ?_
    have registered : Handle.InForce ⟨h.name, reg.generation⟩ actions :=
      ⟨reg.callback, follows.stored.1 stored⟩
    exact (ofNat_generation_inj (Nat.lt_of_lt_of_le registered.isIssued.lt few)
      (Nat.lt_of_lt_of_le issued.lt few)).symm

/-- The registration that draws first is stored last, and its handle is used twice. The name is free
again when it is registered for the third time. -/
theorem unsubscribe_of_run?_overlapping :
    let first : Handle := ⟨"panel", 0⟩
    let second : Handle := ⟨"panel", 1⟩
    let third : Handle := ⟨"panel", 2⟩
    let opening : List Action := [.draw "panel" ⟨"a", .nothing⟩, .draw "panel" ⟨"b", .nothing⟩,
      .store second, .store first]
    let actions := opening ++ [.unsubscribe first, .draw "panel" ⟨"c", .nothing⟩, .store third]
    ∃ mid s, (fresh "ws://garden" 1).run? opening = some mid ∧
      (fresh "ws://garden" 1).run? actions = some s ∧
      first.InForce opening ∧ mid.callbacks.unsubscribe second = (false, mid.callbacks) ∧
      s.callbacks.unsubscribe first = (false, s.callbacks) ∧
      (∃ before, (fresh "ws://garden" 1).run? (opening ++ [.unsubscribe first]) = some before ∧
        (before.callbacks.draw "panel" ⟨"c", .nothing⟩).1 = third) ∧
      (∃ c, s.callbacks.unsubscribe third = (true, c) ∧ c.stored.get? "panel" = none) ∧
      ∃ reg, s.callbacks.stored.get? "panel" = some reg ∧ UInt64.ofNat reg.generation = 2 := by
  intro first second third opening actions
  have begun : ((fresh "ws://garden" 1).run? opening).any
      (fun r => (r.callbacks.unsubscribe first).1) := by decide
  have done : ((fresh "ws://garden" 1).run? actions).any
      (fun r => (r.callbacks.unsubscribe third).1) := by decide
  obtain ⟨mid, hm, succeeds⟩ := (Option.any_eq_true _ _).1 begun
  obtain ⟨s, run, current⟩ := (Option.any_eq_true _ _).1 done
  obtain ⟨-, mids, displaced, -⟩ := unsubscribe_of_run? hm
  obtain ⟨issued, ends, -, again, -, words⟩ := unsubscribe_of_run? run
  obtain ⟨c, removed, -, -, stored⟩ := (ends third).2.1 ((ends third).1.1 current)
  refine ⟨mid, s, hm, run, (mids first).1.1 succeeds,
    displaced second (opening.take 2) [.store first] rfl (.inr (.inr ⟨0, .head _⟩)),
    again first opening mid _ rfl hm succeeds,
    issued (opening ++ [.unsubscribe first]) "panel" _ [.store third] rfl,
    ⟨c, removed, stored "panel"⟩, ?_⟩
  exact (words (by decide) third ⟨⟨"c", .nothing⟩, rfl⟩).1 current

end Registry

end GardenAdmin
