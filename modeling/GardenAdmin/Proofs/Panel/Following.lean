import GardenAdmin.Proofs.Garden.Identity
import GardenAdmin.Proofs.Panel.History

/-!
# Following events

A panel keeps the identifier of its garden, so which events concern it never changes: only the news
of that garden matter (`Event.IsNewsOf`), and the others can be left out anywhere. The last update
among the news decides what is on display; the removals after it add a warning each.
-/

namespace GardenAdmin

open Wire

/-- The event says that the garden of that identifier was removed, or carries a new record of it. -/
def Event.IsNewsOf (e : Event) (id : String) : Prop :=
  e.payloadId? = some id ∧ (e.kind = .gardenRemoved ∨
    e.kind = .gardenUpdated ∧ (Decoder.ofValue Garden.decoder e.payload).isOk)

instance (e : Event) (id : String) : Decidable (e.IsNewsOf id) :=
  inferInstanceAs (Decidable (_ ∧ _))

namespace Panel

/-- The panel after these events. -/
def follow (p : Panel) (events : List Event) : Panel := p.run (events.map .event)

variable {p q : Panel} {e u : Event} {g : Garden} {id : String} {events earlier later : List Event}

@[simp]
theorem follow_cons (p : Panel) (e : Event) (events : List Event) :
    p.follow (e :: events) = (p.handle e).1.follow events := rfl

theorem follow_append (p : Panel) (events later : List Event) :
    p.follow (events ++ later) = (p.follow events).follow later := by
  rw [follow, List.map_append, run, List.foldl_append]
  rfl

/-! ## One event -/

theorem handle_of_update (own : p.garden.id = some id) (about : e.payloadId? = some id)
    (update : e.kind = .gardenUpdated)
    (decoded : Decoder.ofValue Garden.decoder e.payload = .ok g) : p.handle e = (load g, true) :=
  handle_of_eq_some (handle?_eq_some_iff.2
    ⟨⟨Option.isSome_of_eq_some own, about.trans own.symm⟩, .inl ⟨update, g, decoded, rfl⟩⟩)

theorem handle_of_removal (own : p.garden.id = some id) (about : e.payloadId? = some id)
    (removal : e.kind = .gardenRemoved) :
    p.handle e = ({ p with alerts := p.alerts ++ [removalWarning p.garden.name] }, true) :=
  handle_of_eq_some (handle?_eq_some_iff.2
    ⟨⟨Option.isSome_of_eq_some own, about.trans own.symm⟩, .inr ⟨removal, rfl⟩⟩)

theorem exists_isNewsOf_of_handle? (concerned : p.handle? e = some q) :
    ∃ id, p.garden.id = some id ∧ e.IsNewsOf id := by
  obtain ⟨⟨identified, about⟩, news⟩ := handle?_eq_some_iff.1 concerned
  obtain ⟨id, own⟩ := Option.isSome_iff_exists.1 identified
  refine ⟨id, own, about.trans own, ?_⟩
  obtain ⟨update, g, decoded, -⟩ | ⟨removal, -⟩ := news
  · exact .inr ⟨update, by rw [decoded]; rfl⟩
  · exact .inl removal

/-- What is no news of the displayed garden changes nothing. -/
theorem handle_of_forall_not (stale : ∀ id, p.garden.id = some id → ¬e.IsNewsOf id) :
    p.handle e = (p, false) := by
  refine handle_of_eq_none (Option.eq_none_iff_forall_ne_some.2 fun q concerned => ?_)
  obtain ⟨id, own, news⟩ := exists_isNewsOf_of_handle? concerned
  exact stale id own news

theorem fst_handle_of_snd (ignored : (p.handle e).2 = false) : (p.handle e).1 = p := by
  cases concerned : p.handle? e with
  | none => rw [handle_of_eq_none concerned]
  | some q =>
    rw [handle_of_eq_some concerned] at ignored
    cases ignored

/-- An update shows a record of the same identifier, which the event itself gives. -/
@[simp]
theorem id_handle (p : Panel) (e : Event) : (p.handle e).1.garden.id = p.garden.id := by
  cases concerned : p.handle? e with
  | none => rw [handle_of_eq_none concerned]
  | some q =>
    rw [handle_of_eq_some concerned]
    obtain ⟨⟨-, about⟩, ⟨-, g, decoded, rfl⟩ | ⟨-, rfl⟩⟩ := handle?_eq_some_iff.1 concerned
    · exact (Garden.id_of_payload decoded).trans about
    · rfl

/-! ## Many events -/

@[simp]
theorem id_follow (p : Panel) (events : List Event) :
    (p.follow events).garden.id = p.garden.id := by
  induction events generalizing p with
  | nil => rfl
  | cons e events ih => rw [follow_cons, ih, id_handle]

theorem follow_of_id_eq_none (unidentified : p.garden.id = none) (events : List Event) :
    p.follow events = p := by
  induction events with
  | nil => rfl
  | cons e events ih =>
    have ignored : p.handle e = (p, false) := handle_of_forall_not fun id own => by
      cases unidentified.symm.trans own
    rw [follow_cons, ignored, ih]

/-- Only the news matter. -/
theorem follow_filter (own : p.garden.id = some id) (events : List Event) :
    p.follow events = p.follow (events.filter (·.IsNewsOf id)) := by
  induction events generalizing p with
  | nil => rfl
  | cons e events ih =>
    -- the next panel shows the same garden, so the news are the same ones for it
    have kept : (p.handle e).1.garden.id = some id := by rw [id_handle, own]
    by_cases news : e.IsNewsOf id
    · rw [List.filter_cons_of_pos (by simpa using news), follow_cons, follow_cons, ih kept]
    · have ignored : p.handle e = (p, false) := handle_of_forall_not fun id' own' => by
        cases own.symm.trans own'
        exact news
      rw [List.filter_cons_of_neg (by simpa using news), follow_cons, ignored, ih own]

/-- A removal adds a warning, whether or not the garden was removed before. -/
theorem follow_removals (own : p.garden.id = some id)
    (removals : ∀ e ∈ later, e.payloadId? = some id ∧ e.kind = .gardenRemoved) :
    p.follow later = { p with
      alerts := p.alerts ++ List.replicate later.length (removalWarning p.garden.name) } := by
  induction later generalizing p with
  | nil =>
    rw [List.length_nil, List.replicate_zero, List.append_nil]
    rfl
  | cons e later ih =>
    obtain ⟨about, removal⟩ := removals e (.head _)
    have kept : (p.handle e).1.garden.id = some id := by rw [id_handle, own]
    rw [follow_cons, ih kept fun e mem => removals e (.tail _ mem),
      handle_of_removal own about removal, List.append_assoc, List.singleton_append]
    rfl

/-- After an update and removals, nothing is left of the panel that came before. -/
theorem follow_update_removals (own : p.garden.id = some id) (about : u.payloadId? = some id)
    (update : u.kind = .gardenUpdated) (decoded : Decoder.ofValue Garden.decoder u.payload = .ok g)
    (removals : ∀ e ∈ later, e.payloadId? = some id ∧ e.kind = .gardenRemoved) :
    p.follow (earlier ++ u :: later) = {
      garden := g, form := g.toForm
      alerts := List.replicate later.length (removalWarning g.name), fieldErrors := .empty } := by
  have kept : (p.follow earlier).garden.id = some id := by rw [id_follow, own]
  have same : (load g).garden.id = some id := (Garden.id_of_payload decoded).trans about
  rw [follow_append, follow_cons, handle_of_update kept about update decoded,
    follow_removals same removals]
  rfl

/-- Some update among the events is the last one. -/
theorem exists_last_update (news : ∀ e ∈ events, e.IsNewsOf id)
    (updated : ∃ u ∈ events, u.kind = .gardenUpdated) :
    ∃ earlier u later, events = earlier ++ u :: later ∧ u.kind = .gardenUpdated ∧
      ∀ e ∈ later, e.kind = .gardenRemoved := by
  induction events with
  | nil =>
    obtain ⟨_, mem, -⟩ := updated
    cases mem
  | cons e events ih =>
    by_cases more : ∃ u ∈ events, u.kind = .gardenUpdated
    · obtain ⟨earlier, u, later, rfl, last⟩ := ih (fun e mem => news e (.tail _ mem)) more
      exact ⟨e :: earlier, u, later, rfl, last⟩
    · obtain ⟨u, mem, update⟩ := updated
      obtain rfl | mem := List.mem_cons.1 mem
      · refine ⟨[], u, events, rfl, update, fun e mem => ?_⟩
        exact (news e (.tail _ mem)).2.resolve_right fun h => more ⟨e, mem, h.1⟩
      · exact absurd ⟨u, mem, update⟩ more

/-! ## What events come to -/

/-- Whatever the events are, the panel keeps the identifier of its garden, and an event that it does
not follow leaves it as it is. Without an identifier it follows none. With one, only the news of
that garden matter; if there is an update among them, the panel shows the record of the last one
with its own form and a warning for every removal since, whatever other events came before that
update and whatever other panel of that garden they started from. -/
theorem follow_news (p : Panel) (events : List Event) :
    (∀ e, (p.handle e).2 = false → (p.handle e).1 = p) ∧
    (p.follow events).garden.id = p.garden.id ∧
    (p.garden.id = none → p.follow events = p) ∧
    ∀ id, p.garden.id = some id →
      p.follow events = p.follow (events.filter (·.IsNewsOf id)) ∧
      ((∃ u ∈ events.filter (·.IsNewsOf id), u.kind = .gardenUpdated) →
        ∃ earlier u later g, events.filter (·.IsNewsOf id) = earlier ++ u :: later ∧
          u.kind = .gardenUpdated ∧ (∀ e ∈ later, e.kind = .gardenRemoved) ∧
          Decoder.ofValue Garden.decoder u.payload = .ok g ∧
          p.follow events = {
            garden := g, form := g.toForm
            alerts := List.replicate later.length (removalWarning g.name), fieldErrors := .empty } ∧
          ∀ (q : Panel) before, q.garden.id = some id →
            q.follow (before ++ u :: later) = p.follow events) := by
  refine ⟨fun e => fst_handle_of_snd, id_follow p events,
    fun unidentified => follow_of_id_eq_none unidentified events,
    fun id own => ⟨follow_filter own events, fun updated => ?_⟩⟩
  have news : ∀ e ∈ events.filter (·.IsNewsOf id), e.IsNewsOf id := fun e mem =>
    of_decide_eq_true (List.mem_filter.1 mem).2
  obtain ⟨earlier, u, later, split, update, removals⟩ := exists_last_update news updated
  rw [split] at news
  obtain ⟨about, removal | ⟨-, isOk⟩⟩ := news u (List.mem_append_right _ (.head _))
  · cases update.symm.trans removal
  · have removals' : ∀ e ∈ later, e.payloadId? = some id ∧ e.kind = .gardenRemoved := fun e mem =>
      ⟨(news e (List.mem_append_right _ (.tail _ mem))).1, removals e mem⟩
    cases decoded : Decoder.ofValue Garden.decoder u.payload with
    | error cause =>
      rw [decoded] at isOk
      cases isOk
    | ok g =>
      have shown : p.follow events = {
          garden := g, form := g.toForm
          alerts := List.replicate later.length (removalWarning g.name)
          fieldErrors := .empty } := by
        rw [follow_filter own, split]
        exact follow_update_removals own about update decoded removals'
      refine ⟨earlier, u, later, g, split, update, removals, decoded, shown, ?_⟩
      intro q before own'
      rw [shown]
      exact follow_update_removals own' about update decoded removals'

/-- The garden is renamed between two removals; the removal of another one is left out. -/
theorem follow_news_renamed :
    let removed : String → Event := fun id =>
      { name := "GARDEN_REMOVED", payload := .object [("id", .string id)] }
    let renamed : Event := {
      name := "GARDEN_UPDATED"
      payload := .object [("name", .string "barn"), ("id", .string "1")] }
    let p : Panel := {
      garden := { id := some "1", name := "shed" }, form := { connectionType := some .stomp }
      alerts := [localWarning], fieldErrors := .empty }
    let events := [removed "1", renamed, removed "2", removed "1"]
    p.follow events = p.follow [removed "1", renamed, removed "1"] ∧
    (p.follow events).garden.id = some "1" ∧ ∃ g n, p.follow events = {
      garden := g, form := g.toForm, alerts := List.replicate n (removalWarning g.name)
      fieldErrors := .empty } := by
  intro removed renamed p events
  obtain ⟨-, kept, -, follows⟩ := follow_news p events
  obtain ⟨filtered, last⟩ := follows "1" rfl
  have news : events.filter (·.IsNewsOf "1") = [removed "1", renamed, removed "1"] := by
    decide +kernel
  rw [news] at filtered last
  obtain ⟨-, -, later, g, -, -, -, -, shown, -⟩ := last ⟨renamed, .tail _ (.head _), by decide⟩
  exact ⟨filtered, kept, g, later.length, shown⟩

end Panel

end GardenAdmin
