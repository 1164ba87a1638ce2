import GardenAdmin.Proofs.Garden.RoundTrip

/-!
# What a form submits

A submitted record has the configured entry points of the form and nothing of the parameters its
base had. An HTTP entry point goes out as it stands, a STOMP entry point with its complete rows as
headers.
-/

namespace GardenAdmin

/-! ## Header rows and headers -/

/-- The row that holds the header as it is. -/
def StompHeader.asRow (h : StompHeader) : HeaderRow := ⟨some h.key, some h.value⟩

theorem StompHeader.asRow_injective : Function.Injective asRow := by
  rintro ⟨key, value⟩ ⟨key', value'⟩ e
  simpa [asRow] using e

namespace HeaderRow

theorem toRow_of_complete? {r : HeaderRow} {h : StompHeader} (found : r.complete? = some h) :
    h.toRow = h.asRow :=
  h.toRow_of_isComplete (complete?_eq_some_iff.1 found).1

/-- The headers are the complete rows as they are, in their order. -/
theorem filterMap_complete?_eq_iff {rows : List HeaderRow} {headers : List StompHeader} :
    rows.filterMap (·.complete?) = headers ↔ headers.map (·.asRow) = rows.filter (·.IsComplete) := by
  have kept : (rows.filterMap (·.complete?)).map (·.asRow) = rows.filter (·.IsComplete) := by
    rw [← map_toRow_filterMap_complete?]
    refine List.map_congr_left fun h mem => ?_
    obtain ⟨r, -, found⟩ := List.mem_filterMap.1 mem
    exact (toRow_of_complete? found).symm
  rw [← kept, eq_comm]
  exact (List.map_inj_right fun _ _ e => StompHeader.asRow_injective e).symm

end HeaderRow

namespace Stomp

variable {η θ : Type}

/-- Besides the headers, all of the two agree exactly if one is the other with its own headers. -/
theorem eq_withHeaders_iff {s : Stomp η} {s' : Stomp θ} {headers : List θ} :
    s.withHeaders headers = s' ↔ s'.withHeaders s.headers = s ∧ headers = s'.headers := by
  constructor
  · rintro rfl
    exact ⟨rfl, rfl⟩
  · rintro ⟨e, rfl⟩
    rw [← e]
    rfl

end Stomp

theorem StompForm.toParams_eq_iff {s : StompForm} {s' : StompParams} :
    s.toParams = s' ↔ s'.withHeaders s.headers = s ∧
      s'.headers.map (·.asRow) = s.headers.filter (·.IsComplete) := by
  rw [toParams, Stomp.eq_withHeaders_iff, HeaderRow.filterMap_complete?_eq_iff]

/-! ## The submitted record -/

namespace Form

variable {f : Form} {base r : Garden}

theorem toGarden?_eq_error_iff : f.toGarden? base = .error .noEntryPoint ↔ ¬f.IsConfigured := by
  rw [← isEmpty_params_eq_false_iff, Bool.not_eq_false, toGarden?]
  cases f.params.isEmpty <;> simp

theorem stomp_params_eq_some_iff_rows {s' : StompParams} :
    f.params.stomp = some s' ↔ ∃ s ∈ f.stomp, s.IsConfigured ∧ s'.withHeaders s.headers = s ∧
      s'.headers.map (·.asRow) = s.headers.filter (·.IsComplete) := by
  simp only [stomp_params_eq_some_iff, StompForm.toParams_eq_iff]

/-- The base's own parameters are not looked at. -/
theorem toGarden?_with_params (f : Form) (base : Garden) (params : Option ConnectionParams) :
    f.toGarden? { base with connectionParams := params } = f.toGarden? base := by
  unfold toGarden?
  rfl

/-- A form without a configured entry point submits nothing. Any other form submits the base with
the form's type, if it gives one, and with just the configured entry points of the form: HTTP as it
stands, STOMP with the complete rows, in their order, as headers. The parameters that the base had
make no difference. -/
theorem toGarden?_exactly (f : Form) (base : Garden) :
    (f.toGarden? base = .error .noEntryPoint ↔
      (∀ h ∈ f.http, ¬h.IsConfigured) ∧ ∀ s ∈ f.stomp, ¬s.IsConfigured) ∧
    (∀ r, f.toGarden? base = .ok r →
      ∃ p, r = { base with
          connectionType := f.connectionType <|> base.connectionType
          connectionParams := some p } ∧
        (∀ h, p.http = some h ↔ f.http = some h ∧ h.IsConfigured) ∧
        ∀ s', p.stomp = some s' ↔ ∃ s ∈ f.stomp, s.IsConfigured ∧ s'.withHeaders s.headers = s ∧
          s'.headers.map (·.asRow) = s.headers.filter (·.IsComplete)) ∧
    ∀ params, f.toGarden? { base with connectionParams := params } = f.toGarden? base := by
  refine ⟨?_, fun r made => ?_, f.toGarden?_with_params base⟩
  · rw [toGarden?_eq_error_iff, IsConfigured, not_or]
    simp only [not_exists, not_and]
  · obtain ⟨-, rfl⟩ := toGarden?_eq_ok_iff.1 made
    exact ⟨f.params, rfl, fun h => http_params_eq_some_iff, fun s' => stomp_params_eq_some_iff_rows⟩

/-- Switches and a client key do not make an HTTP entry point, and the one of the base is gone. One
complete row makes a STOMP entry point, which keeps its empty texts. -/
theorem toGarden?_exactly_rows :
    let base : Garden := {
      id := some "7", name := "shed", connectionType := some .http
      connectionParams := some { http := some { host := some "old" } } }
    let f : Form := {
      http := some { host := some "", ssl := some true, clientKey := some "key" }
      stomp := some {
        host := some "", ssl := some { useSsl := some true }
        headers := [⟨some "a", none⟩, ⟨some "b", some "1"⟩, ⟨some "c", some ""⟩] } }
    ∃ r, f.toGarden? base = .ok r ∧ r.connectionType = some .http ∧
      ∃ p, r.connectionParams = some p ∧ p.http = none ∧
        p.stomp = some {
          host := some "", ssl := some { useSsl := some true }, headers := [⟨"b", "1"⟩] } ∧
        f.toGarden? { base with connectionParams := none } = .ok r := by
  intro base f
  obtain ⟨fails, takes, same⟩ := f.toGarden?_exactly base
  have configured : ∃ r, f.toGarden? base = .ok r := ⟨_, rfl⟩
  obtain ⟨r, made⟩ := configured
  obtain ⟨p, rfl, http, stomp⟩ := takes r made
  refine ⟨_, made, rfl, p, rfl, ?_, ?_, (same none).trans made⟩
  · refine Option.eq_none_iff_forall_ne_some.2 fun h given => ?_
    obtain ⟨e, configured⟩ := (http h).1 given
    obtain rfl := Option.some.inj e
    exact absurd configured (by decide)
  · exact (stomp _).2 ⟨_, rfl, by decide, rfl, by decide⟩

end Form

end GardenAdmin
