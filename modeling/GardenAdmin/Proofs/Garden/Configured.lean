import GardenAdmin.Garden.Form

/-!
# What counts as configured

An entry point is configured if something addresses, identifies or certifies its connection. The
checks for emptiness decide just that, and `Form.params` keeps just the configured entry points of a
form, with the complete ones of its header rows.
-/

namespace GardenAdmin

/-- The text is there and not empty. -/
def HasText (s : Option String) : Prop := ∃ t ∈ s, t ≠ ""

instance (s : Option String) : Decidable (HasText s) := inferInstanceAs (Decidable (∃ t ∈ s, t ≠ ""))

theorem hasText_some {t : String} : HasText (some t) ↔ t ≠ "" := by
  simp [HasText]

theorem not_hasText_none : ¬HasText none := by
  simp [HasText]

theorem isBlankText_eq_false_iff {s : Option String} : isBlankText s = false ↔ HasText s := by
  cases s with
  | none => simp [isBlankText_none, not_hasText_none]
  | some t => simp [isBlankText_some, hasText_some]

/-! ## Entry points -/

namespace HttpParams

variable {h : HttpParams}

/-- Something addresses or certifies the connection. -/
def IsConfigured (h : HttpParams) : Prop :=
  h.port.isSome ∨ HasText h.host ∨ HasText h.urlPrefix ∨ HasText h.caCert ∨ HasText h.clientCert

instance (h : HttpParams) : Decidable h.IsConfigured := inferInstanceAs (Decidable (_ ∨ _))

theorem isEmpty_eq_false_iff : h.isEmpty = false ↔ h.IsConfigured := by
  simp only [isEmpty, IsConfigured, Bool.and_eq_false_iff, isBlankText_eq_false_iff,
    Option.isNone_eq_false_iff]
  grind

end HttpParams

/-- A certificate or a key is there. -/
def StompSsl.HasMaterial (s : StompSsl) : Prop :=
  HasText s.caCert ∨ HasText s.clientCert ∨ HasText s.clientKey

instance (s : StompSsl) : Decidable s.HasMaterial := inferInstanceAs (Decidable (_ ∨ _))

theorem StompSsl.isBlank_eq_false_iff {s : StompSsl} : s.isBlank = false ↔ s.HasMaterial := by
  simp only [isBlank, HasMaterial, Bool.and_eq_false_iff, isBlankText_eq_false_iff, or_assoc]

/-- Both sides of the header carry text. -/
def StompHeader.IsComplete (h : StompHeader) : Prop := h.key ≠ "" ∧ h.value ≠ ""

instance (h : StompHeader) : Decidable h.IsComplete := inferInstanceAs (Decidable (_ ∧ _))

namespace HeaderRow

variable {r : HeaderRow} {h : StompHeader}

/-- Both sides of the row carry text. -/
def IsComplete (r : HeaderRow) : Prop := HasText r.key ∧ HasText r.value

instance (r : HeaderRow) : Decidable r.IsComplete := inferInstanceAs (Decidable (_ ∧ _))

theorem complete?_eq_some_iff :
    r.complete? = some h ↔ h.IsComplete ∧ r = ⟨some h.key, some h.value⟩ := by
  obtain ⟨key, value⟩ := r
  obtain ⟨key', value'⟩ := h
  cases key with
  | none => simp [complete?]
  | some key =>
    cases value with
    | none => simp [complete?]
    | some value =>
      simp only [complete?, StompHeader.IsComplete, mk.injEq, Option.some.injEq]
      split <;> grind

theorem isComplete_iff_exists : r.IsComplete ↔ ∃ h, r.complete? = some h := by
  constructor
  · obtain ⟨key, value⟩ := r
    rintro ⟨⟨key, rfl, hk⟩, value, rfl, hv⟩
    exact ⟨⟨key, value⟩, complete?_eq_some_iff.2 ⟨⟨hk, hv⟩, rfl⟩⟩
  · rintro ⟨h, e⟩
    obtain ⟨⟨hk, hv⟩, rfl⟩ := complete?_eq_some_iff.1 e
    exact ⟨hasText_some.2 hk, hasText_some.2 hv⟩

theorem complete?_eq_none_iff : r.complete? = none ↔ ¬r.IsComplete := by
  rw [isComplete_iff_exists, ← Option.isSome_iff_exists, Option.not_isSome_iff_eq_none]

end HeaderRow

namespace Stomp

variable {η θ : Type} {s : Stomp η}

/-- Something but the headers addresses, identifies or certifies the connection. -/
def HasSettings (s : Stomp η) : Prop :=
  s.port.isSome ∨ HasText s.host ∨ HasText s.username ∨ HasText s.password ∨
    HasText s.sendDestination ∨ HasText s.subscribeDestination ∨ ∃ ssl ∈ s.ssl, ssl.HasMaterial

instance (s : Stomp η) : Decidable s.HasSettings := inferInstanceAs (Decidable (_ ∨ _))

theorem isEmpty_eq_false_iff : s.isEmpty = false ↔ s.HasSettings ∨ s.headers ≠ [] := by
  have material : s.ssl.elim true (·.isBlank) = false ↔ ∃ ssl ∈ s.ssl, ssl.HasMaterial := by
    cases s.ssl with
    | none => simp
    | some ssl => simp [StompSsl.isBlank_eq_false_iff]
  simp only [isEmpty, HasSettings, Bool.and_eq_false_iff, isBlankText_eq_false_iff,
    Option.isNone_eq_false_iff, List.isEmpty_eq_false_iff, material]
  grind

theorem hasSettings_withHeaders (s : Stomp η) (headers : List θ) :
    (s.withHeaders headers).HasSettings ↔ s.HasSettings := Iff.rfl

end Stomp

/-- Something identifies the connection, be it a header. -/
def StompParams.IsConfigured (s : StompParams) : Prop :=
  s.HasSettings ∨ ∃ h ∈ s.headers, h.IsComplete

namespace StompForm

variable {s : StompForm}

/-- Something identifies the connection, be it a header row. -/
def IsConfigured (s : StompForm) : Prop := s.HasSettings ∨ ∃ r ∈ s.headers, r.IsComplete

instance (s : StompForm) : Decidable s.IsConfigured := inferInstanceAs (Decidable (_ ∨ _))

theorem isEmpty_toParams_eq_false_iff : s.toParams.isEmpty = false ↔ s.IsConfigured := by
  have rows : s.toParams.headers ≠ [] ↔ ∃ r ∈ s.headers, r.IsComplete := by
    constructor
    · intro ne
      obtain ⟨h, found⟩ := List.exists_mem_of_ne_nil _ ne
      obtain ⟨r, mem, e⟩ := List.mem_filterMap.1 found
      exact ⟨r, mem, HeaderRow.isComplete_iff_exists.2 ⟨h, e⟩⟩
    · rintro ⟨r, mem, complete⟩
      obtain ⟨h, e⟩ := HeaderRow.isComplete_iff_exists.1 complete
      exact List.ne_nil_of_mem (List.mem_filterMap.2 ⟨r, mem, e⟩)
  rw [Stomp.isEmpty_eq_false_iff, rows]
  exact or_congr_left (s.hasSettings_withHeaders _)

end StompForm

/-! ## Forms and records -/

/-- An entry point of the form is configured. -/
def Form.IsConfigured (f : Form) : Prop :=
  (∃ h ∈ f.http, h.IsConfigured) ∨ ∃ s ∈ f.stomp, s.IsConfigured

instance (f : Form) : Decidable f.IsConfigured := inferInstanceAs (Decidable (_ ∨ _))

/-- An entry point of the record is configured. -/
def Garden.IsConfigured (g : Garden) : Prop :=
  ∃ p ∈ g.connectionParams, (∃ h ∈ p.http, h.IsConfigured) ∨ ∃ s ∈ p.stomp, s.IsConfigured

namespace Form

variable {f : Form} {base r : Garden}

theorem http_params_eq_some_iff {h : HttpParams} :
    f.params.http = some h ↔ f.http = some h ∧ h.IsConfigured := by
  rw [params, Option.filter_eq_some_iff, Bool.not_eq_true', HttpParams.isEmpty_eq_false_iff]

theorem stomp_params_eq_some_iff {s' : StompParams} :
    f.params.stomp = some s' ↔ ∃ s ∈ f.stomp, s.IsConfigured ∧ s.toParams = s' := by
  rw [params, Option.filter_eq_some_iff, Option.map_eq_some_iff, Bool.not_eq_true']
  constructor
  · rintro ⟨⟨s, found, rfl⟩, given⟩
    exact ⟨s, found, StompForm.isEmpty_toParams_eq_false_iff.1 given, rfl⟩
  · rintro ⟨s, found, configured, rfl⟩
    exact ⟨⟨s, found, rfl⟩, StompForm.isEmpty_toParams_eq_false_iff.2 configured⟩

theorem isEmpty_params_eq_false_iff : f.params.isEmpty = false ↔ f.IsConfigured := by
  rw [ConnectionParams.isEmpty, Bool.and_eq_false_iff, Option.isNone_eq_false_iff,
    Option.isNone_eq_false_iff, Option.isSome_iff_exists, Option.isSome_iff_exists]
  simp only [http_params_eq_some_iff, stomp_params_eq_some_iff]
  refine or_congr Iff.rfl ⟨?_, ?_⟩
  · rintro ⟨_, s, found, configured, -⟩
    exact ⟨s, found, configured⟩
  · rintro ⟨s, found, configured⟩
    exact ⟨_, s, found, configured, rfl⟩

theorem toGarden?_eq_ok_iff : f.toGarden? base = .ok r ↔
    f.params.isEmpty = false ∧ r = { base with
      connectionType := f.connectionType <|> base.connectionType
      connectionParams := some f.params } := by
  unfold toGarden?
  cases f.params.isEmpty with
  | true => exact ⟨nofun, fun h => Bool.noConfusion h.1⟩
  | false => exact ⟨fun e => ⟨rfl, (Except.ok.inj e).symm⟩, fun h => congrArg Except.ok h.2.symm⟩

end Form

end GardenAdmin
