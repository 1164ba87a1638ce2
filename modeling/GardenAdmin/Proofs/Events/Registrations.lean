import GardenAdmin.Proofs.Events.Run
import GardenAdmin.Proofs.Text.Bytes

/-!
# Which callbacks an event reaches

`Registered history name reg` says from the history of a run alone which registration is in force
under a name: the one stored last, unless it was taken away since. The map of callbacks holds these
and no others (`Callbacks.follows_of_run?`), and an event reaches each of them once, in the order
of the bytes of their names.
-/

namespace GardenAdmin

def Action.draws? : Action → Option (String × Callback)
  | .draw name callback => some (name, callback)
  | _ => none

/-- The registrations of a history, in the order in which they drew their generations. -/
def draws (history : List Action) : List (String × Callback) := history.filterMap Action.draws?

/-- The action takes a registration away or puts another one in its place. -/
def Action.Displaces (a : Action) (name : String) (reg : Registration) : Prop :=
  a = .remove name ∨ a = .unsubscribe ⟨name, reg.generation⟩ ∨
    ∃ generation, a = .store ⟨name, generation⟩

/-- The registration was stored under the name, and nothing has displaced it since. -/
def Registered (history : List Action) (name : String) (reg : Registration) : Prop :=
  ∃ earlier later, history = earlier ++ .store ⟨name, reg.generation⟩ :: later ∧
    (draws earlier)[reg.generation]? = some (name, reg.callback) ∧
    ∀ a ∈ later, ¬a.Displaces name reg

section

variable {history : List Action} {a : Action} {name : String} {reg : Registration}

theorem not_registered_nil : ¬Registered [] name reg := by
  rintro ⟨earlier, later, e, -⟩
  cases earlier <;> cases e

theorem registered_concat : Registered (history ++ [a]) name reg ↔
    (a = .store ⟨name, reg.generation⟩ ∧
      (draws history)[reg.generation]? = some (name, reg.callback)) ∨
    (Registered history name reg ∧ ¬a.Displaces name reg) := by
  constructor
  · rintro ⟨earlier, later, e, drew, kept⟩
    rcases Registry.concat_eq_append_cons e with ⟨rfl, rfl, rfl⟩ | ⟨rest, rfl, rfl⟩
    · exact .inl ⟨rfl, drew⟩
    · refine .inr ⟨⟨earlier, rest, rfl, drew, ?_⟩, kept a (by simp)⟩
      exact fun b hb => kept b (List.mem_append_left _ hb)
  · rintro (⟨rfl, drew⟩ | ⟨⟨earlier, later, rfl, drew, kept⟩, keeps⟩)
    · exact ⟨history, [], rfl, drew, nofun⟩
    · refine ⟨earlier, later ++ [a], by simp, drew, fun b hb => ?_⟩
      rcases List.mem_append.1 hb with hb | hb
      · exact kept b hb
      · exact List.mem_singleton.1 hb ▸ keeps

theorem registered_concat_of_not_displaces (other : ∀ handle, a ≠ .store handle)
    (keeps : ¬a.Displaces name reg) :
    Registered (history ++ [a]) name reg ↔ Registered history name reg := by
  rw [registered_concat]
  exact ⟨fun h => (h.resolve_left fun h => other _ h.1).1, fun h => .inr ⟨h, keeps⟩⟩

end

namespace Callbacks

/-- A registration that is stored was waiting for it, and waits no longer. -/
theorem exists_of_store? {c d : Callbacks} {handle : Handle} (stored : c.store? handle = some d) :
    ∃ callback, (handle, callback) ∈ c.drawn ∧ d = { c with
      stored := c.stored.insert handle.name ⟨handle.generation, callback⟩
      drawn := c.drawn.filter (·.1 ≠ handle) } := by
  simp only [store?, Option.bind_eq_bind, Option.bind_eq_some_iff] at stored
  obtain ⟨⟨handle', callback⟩, found, e⟩ := stored
  cases e
  obtain rfl : handle' = handle := by simpa using List.find?_some found
  exact ⟨callback, List.mem_of_find?_eq_some found, rfl⟩

/-- What the map of callbacks has to do with the history that led to it. -/
structure Follows (c : Callbacks) (history : List Action) : Prop where
  count : c.nextGeneration = (draws history).length
  drawn : ∀ {handle : Handle} {callback : Callback}, (handle, callback) ∈ c.drawn →
    (draws history)[handle.generation]? = some (handle.name, callback)
  stored : ∀ {name : String} {reg : Registration},
    c.stored.get? name = some reg ↔ Registered history name reg

namespace Follows

variable {c d : Callbacks} {history : List Action} {a : Action}

/-- An action that draws no generation. -/
theorem of_not_draws (h : c.Follows history) (quiet : a.draws? = none)
    (count : d.nextGeneration = c.nextGeneration) (drawn : ∀ p ∈ d.drawn, p ∈ c.drawn)
    (stored : ∀ {name reg}, d.stored.get? name = some reg ↔ Registered (history ++ [a]) name reg) :
    d.Follows (history ++ [a]) := by
  have same : draws (history ++ [a]) = draws history := by
    simp [draws, quiet]
  refine ⟨?_, ?_, stored⟩
  · rw [same, count]
    exact h.count
  · intro handle callback hd
    rw [same]
    exact h.drawn (drawn _ hd)

theorem draw (h : c.Follows history) (name : String) (callback : Callback) :
    (c.draw name callback).2.Follows (history ++ [.draw name callback]) := by
  have grown : draws (history ++ [.draw name callback]) = draws history ++ [(name, callback)] := by
    simp [draws, Action.draws?]
  refine ⟨?_, ?_, ?_⟩
  · rw [grown, List.length_append, ← h.count]
    rfl
  · intro handle callback' hd
    rw [grown]
    rcases List.mem_append.1 hd with hd | hd
    · have drew := h.drawn hd
      rw [List.getElem?_append_left (List.getElem?_eq_some_iff.1 drew).1, drew]
    · cases List.mem_singleton.1 hd
      rw [h.count, List.getElem?_append_right (Nat.le_refl _)]
      simp
  · intro name' reg
    rw [registered_concat_of_not_displaces fun _ e => by cases e]
    · exact h.stored
    · rintro (e | e | ⟨g, e⟩) <;> cases e

theorem store (h : c.Follows history) {handle : Handle} (stored : c.store? handle = some d) :
    d.Follows (history ++ [.store handle]) := by
  obtain ⟨callback, waiting, rfl⟩ := exists_of_store? stored
  have drew := h.drawn waiting
  refine h.of_not_draws rfl rfl (fun p hp => (List.mem_filter.1 hp).1) fun {name reg} => ?_
  show (c.stored.insert _ _).get? name = some reg ↔ _
  rw [SortedMap.get?_insert, registered_concat]
  split
  · next e =>
    constructor
    · intro same
      cases same
      exact .inl ⟨by rw [e], by rw [e]; exact drew⟩
    · rintro (⟨same, drew'⟩ | ⟨-, keeps⟩)
      · obtain ⟨generation, callback'⟩ := reg
        cases same
        cases drew.symm.trans drew'
        rfl
      · exact absurd (.inr (.inr ⟨handle.generation, by rw [e]⟩)) keeps
  · next ne =>
    rw [h.stored, or_iff_right, and_iff_left]
    · rintro (same | same | ⟨g, same⟩) <;> cases same
      exact ne rfl
    · rintro ⟨same, -⟩
      cases same
      exact ne rfl

theorem remove (h : c.Follows history) (name : String) :
    (c.remove name).2.Follows (history ++ [.remove name]) := by
  refine h.of_not_draws rfl rfl (fun _ hp => hp) fun {name' reg} => ?_
  show (c.stored.erase name).get? name' = some reg ↔ _
  rw [SortedMap.get?_erase]
  split
  · next e =>
    rw [registered_concat]
    refine ⟨nofun, ?_⟩
    rintro (⟨same, -⟩ | ⟨-, keeps⟩)
    · cases same
    · exact absurd (.inl (by rw [e])) keeps
  · next ne =>
    rw [h.stored, registered_concat_of_not_displaces fun _ e => by cases e]
    rintro (same | same | ⟨g, same⟩) <;> cases same
    exact ne rfl

theorem unsubscribe (h : c.Follows history) (handle : Handle) :
    (c.unsubscribe handle).2.Follows (history ++ [.unsubscribe handle]) := by
  have other (handle' : Handle) : Action.unsubscribe handle ≠ .store handle' := fun e => by cases e
  unfold Callbacks.unsubscribe
  split
  · next current =>
    obtain ⟨reg', found, same⟩ := (Option.any_eq_true _ _).1 current
    refine h.of_not_draws rfl rfl (fun _ hp => hp) fun {name reg} => ?_
    show (c.stored.erase handle.name).get? name = some reg ↔ _
    rw [SortedMap.get?_erase]
    split
    · next e =>
      refine ⟨nofun, fun registered => ?_⟩
      rcases registered_concat.1 registered with ⟨e', -⟩ | ⟨registered, keeps⟩
      · exact absurd e' (other _)
      · have stored := h.stored.2 registered
        rw [e, found] at stored
        have generation : reg.generation = handle.generation :=
          Option.some.inj stored ▸ of_decide_eq_true same
        exact absurd (.inr (.inl (by rw [e, generation]))) keeps
    · next ne =>
      rw [h.stored, registered_concat_of_not_displaces other]
      rintro (same | same | ⟨g, same⟩) <;> cases same
      exact ne rfl
  · next stale =>
    refine h.of_not_draws rfl rfl (fun _ hp => hp) fun {name reg} => ?_
    rw [h.stored, registered_concat]
    refine ⟨fun registered => .inr ⟨registered, ?_⟩, ?_⟩
    · rintro (same | same | ⟨g, same⟩) <;> cases same
      refine stale ?_
      rw [isCurrent, h.stored.2 registered]
      exact decide_eq_true rfl
    · rintro (⟨e, -⟩ | ⟨registered, -⟩)
      · exact absurd e (other _)
      · exact registered

/-- An action that is not about callbacks. -/
theorem other (h : c.Follows history) (draws : a.draws? = none)
    (store : ∀ handle, a ≠ .store handle) (keeps : ∀ name reg, ¬a.Displaces name reg) :
    c.Follows (history ++ [a]) :=
  h.of_not_draws draws rfl (fun _ hp => hp) fun {name reg} =>
    h.stored.trans (registered_concat_of_not_displaces store (keeps name reg)).symm

theorem step {r s : Registry} (h : r.callbacks.Follows history) (step : Registry.Step a r s) :
    s.callbacks.Follows (history ++ [a]) := by
  cases step with
  | draw _ name callback => exact h.draw name callback
  | store stored => exact h.store stored
  | remove _ name => exact h.remove name
  | unsubscribe _ handle => exact h.unsubscribe handle
  | _ =>
    refine h.other rfl (fun _ e => by cases e) ?_
    rintro name reg (e | e | ⟨g, e⟩) <;> cases e

end Follows

theorem follows_of_run? {url : String} {capacity : Nat} {s : Registry} {actions : List Action}
    (run : (Registry.fresh url capacity).run? actions = some s) : s.callbacks.Follows actions := by
  refine Registry.run?_induction (P := fun history s => s.callbacks.Follows history) ?_ ?_ run
  · refine ⟨rfl, nofun, fun {name reg} => ?_⟩
    exact ⟨nofun, fun h => absurd h not_registered_nil⟩
  · intro before a mid next _ h step
    exact h.step step

/-- An event calls the stored callbacks. -/
theorem mem_deliver_iff {c : Callbacks} {e : Event} {name : String} {reg : Registration}
    {outcome : CallOutcome} :
    (name, reg, outcome) ∈ (c.deliver e).calls ↔
      c.stored.get? name = some reg ∧ outcome = reg.callback.outcome := by
  rw [deliver, List.mem_map, ← SortedMap.mem_entries_iff]
  constructor
  · rintro ⟨⟨name', reg'⟩, h, e⟩
    cases e
    exact ⟨h, rfl⟩
  · rintro ⟨h, rfl⟩
    exact ⟨(name, reg), h, rfl⟩

theorem pairwise_deliver (c : Callbacks) (e : Event) :
    (c.deliver e).calls.Pairwise fun a b => Text.utf8 a.1 < Text.utf8 b.1 :=
  List.pairwise_map.2 (c.stored.ordered.imp Text.utf8_lt)

end Callbacks

end GardenAdmin
