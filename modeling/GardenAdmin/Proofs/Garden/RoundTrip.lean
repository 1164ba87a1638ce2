import Mathlib.Logic.Basic
import GardenAdmin.Proofs.Garden.Configured

/-!
# From record to form and back

The form of a record is submitted exactly if the record has a configured entry point, and the record
that comes back has the form without what was not configured (`Form.tidy`). Submitting that form
gives the same record again.
-/

namespace GardenAdmin

/-! ## Pruning -/

/-- Pruning drops the empty text and nothing else. -/
theorem pruneText_eq_some_iff {s : Option String} {t : String} :
    pruneText s = some t ↔ s = some t ∧ t ≠ "" := by
  rw [pruneText, Option.filter_eq_some_iff, decide_eq_true_iff]

theorem hasText_pruneText {s : Option String} : HasText (pruneText s) ↔ HasText s := by
  simp [HasText, pruneText_eq_some_iff]

theorem pruneText_some {t : String} (h : t ≠ "") : pruneText (some t) = some t :=
  pruneText_eq_some_iff.2 ⟨rfl, h⟩

theorem pruneText_pruneText (s : Option String) : pruneText (pruneText s) = pruneText s := by
  simp [pruneText, Option.filter_filter]

namespace HttpParams

theorem isConfigured_prune {h : HttpParams} : h.prune.IsConfigured ↔ h.IsConfigured := by
  simp only [IsConfigured, prune, hasText_pruneText]

theorem prune_prune (h : HttpParams) : h.prune.prune = h.prune := by
  simp only [prune, pruneText_pruneText]

end HttpParams

namespace StompSsl

theorem hasMaterial_prune {s : StompSsl} : s.prune.HasMaterial ↔ s.HasMaterial := by
  simp only [HasMaterial, prune, hasText_pruneText]

theorem prune_prune (s : StompSsl) : s.prune.prune = s.prune := by
  simp only [prune, pruneText_pruneText]

end StompSsl

namespace StompHeader

variable {h : StompHeader}

theorem isComplete_toRow : h.toRow.IsComplete ↔ h.IsComplete := by
  simp only [HeaderRow.IsComplete, toRow, hasText_pruneText, hasText_some, IsComplete]

theorem toRow_of_isComplete (complete : h.IsComplete) : h.toRow = ⟨some h.key, some h.value⟩ := by
  rw [toRow, pruneText_some complete.1, pruneText_some complete.2]

end StompHeader

namespace HeaderRow

/-- The rows of the complete headers are the complete rows, in their order. -/
theorem map_toRow_filterMap_complete? (rows : List HeaderRow) :
    (rows.filterMap (·.complete?)).map (·.toRow) = rows.filter (·.IsComplete) := by
  induction rows with
  | nil => rfl
  | cons r rows ih =>
    by_cases complete : r.IsComplete
    · rw [List.filter_cons_of_pos (by simpa using complete)]
      obtain ⟨h, e⟩ := isComplete_iff_exists.1 complete
      obtain ⟨full, rfl⟩ := complete?_eq_some_iff.1 e
      rw [List.filterMap_cons_some e, List.map_cons, ih, h.toRow_of_isComplete full]
    · rw [List.filterMap_cons_none (complete?_eq_none_iff.2 complete), ih,
        List.filter_cons_of_neg (by simpa using complete)]

theorem filterMap_complete?_filter (rows : List HeaderRow) :
    (rows.filter (·.IsComplete)).filterMap (·.complete?) = rows.filterMap (·.complete?) := by
  have drops (r : HeaderRow) : (if decide r.IsComplete then r.complete? else none) = r.complete? := by
    by_cases complete : r.IsComplete
    · rw [if_pos (decide_eq_true complete)]
    · rw [complete?_eq_none_iff.2 complete, ite_self]
  simp only [List.filterMap_filter, drops]

end HeaderRow

theorem StompParams.isConfigured_toForm {s : StompParams} :
    s.toForm.IsConfigured ↔ s.IsConfigured := by
  have settings : s.toForm.HasSettings ↔ s.HasSettings := by
    simp [Stomp.HasSettings, toForm, hasText_pruneText, StompSsl.hasMaterial_prune]
  have headers : (∃ r ∈ s.toForm.headers, r.IsComplete) ↔ ∃ h ∈ s.headers, h.IsComplete := by
    simp [toForm, StompHeader.isComplete_toRow]
  exact or_congr settings headers

theorem Garden.isConfigured_toForm {g : Garden} : g.toForm.IsConfigured ↔ g.IsConfigured := by
  unfold Garden.IsConfigured Form.IsConfigured toForm
  cases g.connectionParams with
  | none => simp
  | some p => simp [HttpParams.isConfigured_prune, StompParams.isConfigured_toForm]

/-! ## Tidy forms -/

namespace StompForm

variable {s : StompForm}

/-- The entry point without its incomplete rows. -/
def tidy (s : StompForm) : StompForm := { s with headers := s.headers.filter (·.IsComplete) }

theorem isConfigured_tidy : s.tidy.IsConfigured ↔ s.IsConfigured := by
  simp [IsConfigured, tidy, Stomp.HasSettings]

theorem toParams_tidy (s : StompForm) : s.tidy.toParams = s.toParams := by
  simp only [toParams, tidy, Stomp.withHeaders, HeaderRow.filterMap_complete?_filter]

theorem tidy_eq_self_iff : s.tidy = s ↔ ∀ r ∈ s.headers, r.IsComplete := by
  have rows : s.tidy = s ↔ s.headers.filter (·.IsComplete) = s.headers := by
    constructor
    · intro e
      exact congrArg Stomp.headers e
    · intro e
      rw [tidy, e]
  simp [rows, List.filter_eq_self]

end StompForm

namespace Form

variable {f : Form}

/-- The form without what is not configured: no such entry point and no incomplete row. -/
def tidy (f : Form) : Form :=
  { f with
    http := f.http.filter (·.IsConfigured)
    stomp := (f.stomp.filter (·.IsConfigured)).map (·.tidy) }

/-- Every entry point is configured and every row complete. -/
structure IsTidy (f : Form) : Prop where
  http : ∀ h ∈ f.http, h.IsConfigured
  stomp : ∀ s ∈ f.stomp, s.IsConfigured
  rows : ∀ s ∈ f.stomp, ∀ r ∈ s.headers, r.IsComplete

theorem http_tidy_eq_some_iff {h : HttpParams} :
    f.tidy.http = some h ↔ f.http = some h ∧ h.IsConfigured := by
  simp [tidy, Option.filter_eq_some_iff]

theorem stomp_tidy_eq_some_iff {s' : StompForm} :
    f.tidy.stomp = some s' ↔ ∃ s ∈ f.stomp, s.IsConfigured ∧ s.tidy = s' := by
  simp [tidy, Option.filter_eq_some_iff, and_assoc]

theorem tidy_eq_self_iff : f.tidy = f ↔ f.IsTidy := by
  constructor
  · intro e
    refine ⟨fun h found => ?_, fun s found => ?_, fun s found => ?_⟩
    · rw [← e] at found
      exact (http_tidy_eq_some_iff.1 found).2
    · rw [← e] at found
      obtain ⟨s, -, configured, rfl⟩ := stomp_tidy_eq_some_iff.1 found
      exact StompForm.isConfigured_tidy.2 configured
    · rw [← e] at found
      obtain ⟨s, -, -, rfl⟩ := stomp_tidy_eq_some_iff.1 found
      intro r mem
      exact of_decide_eq_true (List.mem_filter.1 mem).2
  · intro h
    have http : f.tidy.http = f.http := by
      ext b
      rw [http_tidy_eq_some_iff]
      exact and_iff_left_of_imp (h.http b)
    have stomp : f.tidy.stomp = f.stomp := by
      ext b
      rw [stomp_tidy_eq_some_iff]
      constructor
      · rintro ⟨s, found, -, rfl⟩
        rwa [StompForm.tidy_eq_self_iff.2 (h.rows s found)]
      · intro found
        exact ⟨b, found, h.stomp b found, StompForm.tidy_eq_self_iff.2 (h.rows b found)⟩
    calc
      f.tidy = { f with http := f.tidy.http, stomp := f.tidy.stomp } := rfl
      _ = f := by rw [http, stomp]

theorem params_tidy (f : Form) : f.tidy.params = f.params := by
  have http : f.tidy.params.http = f.params.http := by
    ext h
    simp only [http_params_eq_some_iff, http_tidy_eq_some_iff, and_assoc, and_self]
  have stomp : f.tidy.params.stomp = f.params.stomp := by
    ext s'
    rw [stomp_params_eq_some_iff, stomp_params_eq_some_iff]
    constructor
    · rintro ⟨_, kept, -, rfl⟩
      obtain ⟨s, found, configured, rfl⟩ := stomp_tidy_eq_some_iff.1 kept
      exact ⟨s, found, configured, s.toParams_tidy.symm⟩
    · rintro ⟨s, found, configured, rfl⟩
      exact ⟨s.tidy, stomp_tidy_eq_some_iff.2 ⟨s, found, configured, rfl⟩,
        StompForm.isConfigured_tidy.2 configured, s.toParams_tidy⟩
  calc
    f.tidy.params = ⟨f.tidy.params.http, f.tidy.params.stomp⟩ := rfl
    _ = f.params := by rw [http, stomp]

theorem isConfigured_tidy : f.tidy.IsConfigured ↔ f.IsConfigured := by
  rw [← isEmpty_params_eq_false_iff, params_tidy, isEmpty_params_eq_false_iff]

end Form

/-! ## The round trip -/

/-- The form of the submitted parameters is the pruned block without its incomplete rows. -/
theorem StompParams.toForm_toParams_toForm (s : StompParams) :
    s.toForm.toParams.toForm = s.toForm.tidy := by
  simp only [toForm, StompForm.toParams, StompForm.tidy, Stomp.withHeaders, pruneText_pruneText,
    Option.map_map, Function.comp_def, StompSsl.prune_prune,
    HeaderRow.map_toRow_filterMap_complete?]

namespace Garden

variable {g r : Garden}

/-- Filled from what its own form submits, the form is the tidy one. -/
theorem toForm_submitted (g : Garden) :
    ({ g with connectionParams := some g.toForm.params } : Garden).toForm = g.toForm.tidy := by
  have http : g.toForm.params.http.map (·.prune) = g.toForm.tidy.http := by
    ext h'
    rw [Option.map_eq_some_iff, Form.http_tidy_eq_some_iff]
    have pruned {h : HttpParams} (found : g.toForm.http = some h) : h.prune = h := by
      obtain ⟨h, -, rfl⟩ := Option.map_eq_some_iff.1 found
      exact h.prune_prune
    constructor
    · rintro ⟨h, submitted, rfl⟩
      obtain ⟨found, configured⟩ := Form.http_params_eq_some_iff.1 submitted
      rw [pruned found]
      exact ⟨found, configured⟩
    · rintro ⟨found, configured⟩
      exact ⟨h', Form.http_params_eq_some_iff.2 ⟨found, configured⟩, pruned found⟩
  have stomp : g.toForm.params.stomp.map (·.toForm) = g.toForm.tidy.stomp := by
    ext s'
    rw [Option.map_eq_some_iff, Form.stomp_tidy_eq_some_iff]
    have filled {s : StompForm} (found : g.toForm.stomp = some s) : s.toParams.toForm = s.tidy := by
      obtain ⟨s, -, rfl⟩ := Option.map_eq_some_iff.1 found
      exact s.toForm_toParams_toForm
    constructor
    · rintro ⟨_, submitted, rfl⟩
      obtain ⟨s, found, configured, rfl⟩ := Form.stomp_params_eq_some_iff.1 submitted
      exact ⟨s, found, configured, (filled found).symm⟩
    · rintro ⟨s, found, configured, rfl⟩
      exact ⟨s.toParams, Form.stomp_params_eq_some_iff.2 ⟨s, found, configured, rfl⟩, filled found⟩
  calc
    toForm _ = ⟨g.connectionType, g.toForm.params.http.map (·.prune),
      g.toForm.params.stomp.map (·.toForm)⟩ := rfl
    _ = g.toForm.tidy := by rw [http, stomp]; rfl

theorem connectionType_toForm (g : Garden) :
    (g.toForm.connectionType <|> g.connectionType) = g.connectionType := by
  unfold toForm
  cases g.connectionType <;> rfl

theorem toGarden?_toForm_eq_ok_iff : g.toForm.toGarden? g = .ok r ↔
    g.IsConfigured ∧ r = { g with connectionParams := some g.toForm.params } := by
  rw [Form.toGarden?_eq_ok_iff, Form.isEmpty_params_eq_false_iff, isConfigured_toForm,
    connectionType_toForm]

/-- The form of a record can be submitted exactly if the record has a configured entry point. The
submitted record differs in its parameters only; its form lacks just what was not configured, and
submits to the same record. -/
theorem toForm_round_trip (g : Garden) :
    ((∃ r, g.toForm.toGarden? g = .ok r) ↔ g.IsConfigured) ∧
    ∀ r, g.toForm.toGarden? g = .ok r →
      r = { g with connectionParams := r.connectionParams } ∧
      r.toForm = g.toForm.tidy ∧ (r.toForm = g.toForm ↔ g.toForm.IsTidy) ∧
      r.toForm.toGarden? r = .ok r := by
  refine ⟨?_, fun r made => ?_⟩
  · simp only [toGarden?_toForm_eq_ok_iff, exists_and_left, exists_eq, and_true]
  · obtain ⟨configured, rfl⟩ := toGarden?_toForm_eq_ok_iff.1 made
    refine ⟨rfl, g.toForm_submitted, ?_, ?_⟩
    · rw [toForm_submitted, Form.tidy_eq_self_iff]
    · rw [toGarden?_toForm_eq_ok_iff, ← isConfigured_toForm, toForm_submitted, Form.params_tidy,
        Form.isConfigured_tidy, isConfigured_toForm]
      exact ⟨configured, rfl⟩

/-- An HTTP entry point with empty texts only and a header without a value stay behind. -/
theorem toForm_round_trip_stomp :
    let g : Garden := {
      id := some "1", name := "shed"
      connectionParams := some {
        http := some { host := some "", ssl := some true }
        stomp := some { host := some "broker", headers := [⟨"a", ""⟩, ⟨"b", "1"⟩] } } }
    ∃ r, g.toForm.toGarden? g = .ok r ∧ r.toForm = g.toForm.tidy ∧ ¬g.toForm.IsTidy ∧
      r.toForm ≠ g.toForm ∧ r.toForm.toGarden? r = .ok r := by
  intro g
  have made : g.toForm.toGarden? g = .ok { g with connectionParams := some {
      stomp := some { host := some "broker", headers := [⟨"b", "1"⟩] } } } := rfl
  obtain ⟨-, tidy, iff, again⟩ := g.toForm_round_trip.2 _ made
  have changed : ¬g.toForm.IsTidy := fun h => absurd (iff.2 h) (by decide)
  exact ⟨_, made, tidy, changed, fun e => changed (iff.1 e), again⟩

end Garden

end GardenAdmin
