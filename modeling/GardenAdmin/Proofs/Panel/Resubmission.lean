import GardenAdmin.Proofs.Garden.RoundTrip
import GardenAdmin.Proofs.Panel

/-!
# Submitting once is enough

The record that a panel prepares from a record's own form holds nothing that a form would drop: its
form shows the parameters word for word (`Garden.plainForm`). So a panel of that record prepares the
same record again (`Panel.prepare_submitted`).
-/

namespace GardenAdmin

/-! ## Forms that show everything -/

namespace StompHeader

/-- The header as a row with both sides. -/
def plainRow (h : StompHeader) : HeaderRow := ⟨some h.key, some h.value⟩

theorem complete?_plainRow {h : StompHeader} (complete : h.IsComplete) :
    h.plainRow.complete? = some h :=
  HeaderRow.complete?_eq_some_iff.2 ⟨complete, rfl⟩

theorem filterMap_complete?_map_plainRow {headers : List StompHeader}
    (complete : ∀ h ∈ headers, h.IsComplete) :
    (headers.map (·.plainRow)).filterMap (·.complete?) = headers := by
  induction headers with
  | nil => rfl
  | cons h headers ih =>
    rw [List.map_cons, List.filterMap_cons_some (h.complete?_plainRow (complete h (.head _))),
      ih fun h' mem => complete h' (.tail _ mem)]

end StompHeader

/-- The parameters as they are, with a row for every header. -/
def StompParams.plainForm (s : StompParams) : StompForm :=
  s.withHeaders (s.headers.map (·.plainRow))

/-- The form that shows the parameters of a record as they are. -/
def Garden.plainForm (g : Garden) : Form where
  connectionType := g.connectionType
  http := g.connectionParams.bind (·.http)
  stomp := (g.connectionParams.bind (·.stomp)).map (·.plainForm)

namespace HttpParams

/-- A default is never an empty text. -/
theorem prune_withDefaults {h : HttpParams} (pruned : h.prune = h) :
    h.withDefaults.prune = h.withDefaults := by
  have prefixed : pruneText h.withDefaults.urlPrefix = h.withDefaults.urlPrefix := by
    have kept : pruneText h.urlPrefix = h.urlPrefix := congrArg urlPrefix pruned
    unfold withDefaults
    cases given : h.urlPrefix with
    | none => rfl
    | some t =>
      rw [given] at kept
      exact kept
  calc
    h.withDefaults.prune = { h.prune.withDefaults with
      urlPrefix := pruneText h.withDefaults.urlPrefix } := rfl
    _ = h.withDefaults := by rw [pruned, prefixed]

end HttpParams

namespace StompForm

/-- The parameters of an entry point hold complete headers only. -/
theorem isComplete_of_mem_toParams {s : StompForm} {h : StompHeader}
    (mem : h ∈ s.toParams.headers) : h.IsComplete := by
  obtain ⟨r, -, complete⟩ := List.mem_filterMap.1 mem
  exact (HeaderRow.complete?_eq_some_iff.1 complete).1

end StompForm

namespace StompParams

/-- What a form submits is shown as it is. -/
theorem toForm_toParams (s : StompParams) :
    s.toForm.toParams.toForm = s.toForm.toParams.plainForm := by
  have rows : s.toForm.toParams.headers.map (·.toRow) =
      s.toForm.toParams.headers.map (·.plainRow) :=
    List.map_congr_left fun h mem =>
      h.toRow_of_isComplete (StompForm.isComplete_of_mem_toParams mem)
  calc
    s.toForm.toParams.toForm = s.toForm.withHeaders (s.toForm.toParams.headers.map (·.toRow)) := by
      simp only [toForm, StompForm.toParams, Stomp.withHeaders, pruneText_pruneText, Option.map_map,
        Function.comp_def, StompSsl.prune_prune]
    _ = s.toForm.toParams.plainForm := by rw [rows]; rfl

/-- Complete headers all come back from their rows. -/
theorem toParams_plainForm {s : StompParams} (complete : ∀ h ∈ s.headers, h.IsComplete) :
    s.plainForm.toParams = s := by
  calc
    s.plainForm.toParams = s.withHeaders
      ((s.headers.map (·.plainRow)).filterMap (·.complete?)) := rfl
    _ = s := by rw [StompHeader.filterMap_complete?_map_plainRow complete]; rfl

end StompParams

namespace Garden

variable {g r : Garden} {p : ConnectionParams}

/-- Parameters without empty entry points and without incomplete headers are all submitted from the
form that shows them as they are. -/
theorem params_plainForm (params : g.connectionParams = some p) (full : p.NoBlanks)
    (complete : ∀ s ∈ p.stomp, ∀ h ∈ s.headers, h.IsComplete) : g.plainForm.params = p := by
  have http : p.http.filter (!·.isEmpty) = p.http := by
    ext h
    rw [Option.filter_eq_some_iff, Bool.not_eq_true']
    exact and_iff_left_of_imp (full.http h)
  have stomp : ((p.stomp.map (·.plainForm)).map (·.toParams)).filter (!·.isEmpty) = p.stomp := by
    have back : (p.stomp.map (·.plainForm)).map (·.toParams) = p.stomp := by
      rw [Option.map_map]
      exact (Option.map_congr fun s found => StompParams.toParams_plainForm (complete s found)).trans
        (Option.map_id_fun' ▸ rfl)
    ext s
    rw [back, Option.filter_eq_some_iff, Bool.not_eq_true']
    exact and_iff_left_of_imp (full.stomp s)
  calc
    g.plainForm.params = ⟨p.http.filter (!·.isEmpty),
        ((p.stomp.map (·.plainForm)).map (·.toParams)).filter (!·.isEmpty)⟩ := by
      simp only [Form.params, plainForm, params, Option.bind_some]
    _ = p := by rw [http, stomp]

end Garden

namespace Panel

variable {g r : Garden} {p : ConnectionParams}

/-- A record's own form changes nothing but the parameters. -/
theorem submission_toForm_eq_ok_iff : submission g g.toForm = .ok r ↔
    g.isLocal = false ∧ g.toForm.params.isEmpty = false ∧
      ∃ p, g.toForm.params.validate = .ok p ∧ r = { g with connectionParams := some p } := by
  rw [submission_eq_ok_iff, g.connectionType_toForm]

/-- The record that is submitted from a record's own form is shown as it is. -/
theorem toForm_of_submission (prepared : submission g g.toForm = .ok r) :
    r.toForm = r.plainForm := by
  obtain ⟨-, -, p, passed, rfl⟩ := submission_toForm_eq_ok_iff.1 prepared
  obtain ⟨-, rfl⟩ := ConnectionParams.validate_eq_ok_iff.1 passed
  have http : (g.toForm.params.http.map (·.withDefaults)).map (·.prune) =
      g.toForm.params.http.map (·.withDefaults) := by
    rw [Option.map_map]
    refine Option.map_congr fun h submitted => HttpParams.prune_withDefaults ?_
    obtain ⟨found, -⟩ := Form.http_params_eq_some_iff.1 submitted
    obtain ⟨given, -, rfl⟩ := Option.map_eq_some_iff.1 found
    exact given.prune_prune
  have stomp : g.toForm.params.stomp.map (·.toForm) = g.toForm.params.stomp.map (·.plainForm) := by
    refine Option.map_congr fun s submitted => ?_
    obtain ⟨form, found, -, rfl⟩ := Form.stomp_params_eq_some_iff.1 submitted
    obtain ⟨given, -, rfl⟩ := Option.map_eq_some_iff.1 found
    exact given.toForm_toParams
  calc
    Garden.toForm { g with connectionParams := some g.toForm.params.withDefaults } =
      ⟨g.connectionType, (g.toForm.params.http.map (·.withDefaults)).map (·.prune),
        g.toForm.params.stomp.map (·.toForm)⟩ := rfl
    _ = Garden.plainForm { g with connectionParams := some g.toForm.params.withDefaults } := by
      rw [http, stomp]
      rfl

/-- The form of a submitted record submits the record's own parameters. -/
theorem params_toForm_of_submission (prepared : submission g g.toForm = .ok r)
    (params : r.connectionParams = some p) : r.toForm.params = p := by
  rw [toForm_of_submission prepared]
  obtain ⟨p', params', checked⟩ := (isRevision_of_submission prepared).checked
  cases params.symm.trans params'
  refine Garden.params_plainForm params checked.noBlanks fun s found h mem => ?_
  obtain ⟨-, -, p', passed, rfl⟩ := submission_toForm_eq_ok_iff.1 prepared
  cases params
  obtain ⟨-, rfl⟩ := ConnectionParams.validate_eq_ok_iff.1 passed
  obtain ⟨form, -, -, rfl⟩ := Form.stomp_params_eq_some_iff.1 found
  exact StompForm.isComplete_of_mem_toParams mem

theorem submission_of_submission (prepared : submission g g.toForm = .ok r) :
    submission r r.toForm = .ok r := by
  obtain ⟨p, params, checked⟩ := (isRevision_of_submission prepared).checked
  rw [submission_toForm_eq_ok_iff, params_toForm_of_submission prepared params]
  obtain ⟨remote, -, p', -, rfl⟩ := submission_toForm_eq_ok_iff.1 prepared
  cases params
  exact ⟨remote, checked.given, p, checked.passes, rfl⟩

/-- A panel of the record that is prepared from a record's own form shows every row and every text of
it unchanged, and prepares just that record, without feedback. -/
theorem prepare_submitted (prepared : (load g).prepare.2 = some r) :
    g.isLocal = false ∧ (load r).form = r.plainForm ∧ (load r).prepare =
      ({ garden := r, form := r.plainForm, alerts := [], fieldErrors := .empty }, some r) := by
  have submitted : submission g g.toForm = .ok r :=
    (prepare_eq_some_iff.1 (Prod.ext rfl prepared)).1
  have shown : (load r).form = r.plainForm := toForm_of_submission submitted
  refine ⟨(submission_toForm_eq_ok_iff.1 submitted).1, shown, ?_⟩
  rw [← shown]
  exact prepare_eq_some_iff.2 ⟨submission_of_submission submitted, rfl⟩

/-- Both entry points are submitted, without an empty certificate and a header without a value. -/
theorem prepare_submitted_shed :
    let g : Garden := {
      id := some "1", name := "shed", connectionType := some .stomp
      connectionParams := some {
        http := some { host := some "pi", port := some 80, caCert := some "" }
        stomp := some {
          host := some "broker", port := some 61613, ssl := some { useSsl := some false }
          headers := [⟨"a", ""⟩, ⟨"b", "1"⟩] } } }
    ∃ r, (load g).prepare.2 = some r ∧ r ≠ g ∧ r.toForm ≠ g.toForm ∧
      (load r).form = r.plainForm ∧ (load r).prepare.2 = some r := by
  intro g
  have prepared : (load g).prepare.2 = some { g with
      connectionParams := some {
        http := some {
          host := some "pi", port := some 80, urlPrefix := some "/", caVerify := some false
          ssl := some false }
        stomp := some {
          host := some "broker", port := some 61613, ssl := some { useSsl := some false }
          headers := [⟨"b", "1"⟩] } } } := rfl
  obtain ⟨-, shown, again⟩ := prepare_submitted prepared
  exact ⟨_, prepared, by decide, by decide, shown, congrArg Prod.snd again⟩

end Panel

end GardenAdmin
