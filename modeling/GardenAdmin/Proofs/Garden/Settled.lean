import GardenAdmin.Proofs.Garden.Repair

/-!
# Repair settles a garden

A garden is settled if its parameters pass validation as they are and include the block that its type
asks for, or if it is local and has none. Repair leaves just the settled gardens alone
(`Garden.repair_eq_self_iff`), and every garden is settled by one repair (`Garden.repair_contract`).
-/

namespace GardenAdmin

section

variable {β : Type} {validate : β → Except ConfigErrors β} {block : Option β}

theorem keepValid_of_passes (repair : Repair) (passes : ∀ b ∈ block, validate b = .ok b) :
    keepValid validate repair block = (block, []) := by
  cases block with
  | none => rfl
  | some b => simp only [keepValid, passes b rfl]

end

namespace HttpParams

variable {h h' : HttpParams}

theorem repair_of_passes (passed : h.validate = .ok h') : repair (some h) = (h', []) := by
  simp only [repair, passed]

/-- Every value that is given in `h` is the same in `h'`. -/
structure IsKeptBy (h h' : HttpParams) : Prop where
  host : ∀ t ∈ h.host, h'.host = some t
  port : ∀ n ∈ h.port, h'.port = some n
  urlPrefix : ∀ t ∈ h.urlPrefix, h'.urlPrefix = some t
  caCert : ∀ t ∈ h.caCert, h'.caCert = some t
  caVerify : ∀ b ∈ h.caVerify, h'.caVerify = some b
  ssl : ∀ b ∈ h.ssl, h'.ssl = some b
  clientCert : ∀ t ∈ h.clientCert, h'.clientCert = some t
  clientKey : ∀ t ∈ h.clientKey, h'.clientKey = some t

/-- Defaults take the places of absent values only. -/
theorem isKeptBy_of_validate (passed : h.validate = .ok h') : h.IsKeptBy h' := by
  obtain ⟨-, rfl⟩ := validate_eq_ok_iff.1 passed
  constructor
  case urlPrefix | caVerify | ssl =>
    intro v given
    simp only [withDefaults, Option.mem_def.1 given]
    rfl
  all_goals exact fun v given => given

end HttpParams

namespace Garden

variable {g : Garden} {p : ConnectionParams}

/-- There is nothing to repair: a local garden has no parameters, and those of any other garden serve
its type. -/
def IsSettled (g : Garden) : Prop :=
  if g.connectionType = some .local then g.connectionParams = none
  else ∃ p, g.connectionParams = some p ∧ p.Serves g.connectionType

theorem repair_of_isLocal (isLocal : g.connectionType = some .local) :
    g.repair.garden = { g with connectionParams := none } := by
  simp only [repair, if_pos isLocal]

theorem exists_garden_repair (g : Garden) : ∃ type params,
    g.repair.garden = { g with connectionType := type, connectionParams := params } := by
  by_cases isLocal : g.connectionType = some .local
  · exact ⟨g.connectionType, none, repair_of_isLocal isLocal⟩
  · by_cases needs : g.NeedsHttp
    · exact ⟨_, _, repair_of_needsHttp isLocal needs⟩
    · exact ⟨g.connectionType, _, repair_of_not_needsHttp isLocal needs⟩

/-- The STOMP block of the record passes validation. -/
def HasValidStomp (g : Garden) : Prop :=
  ∃ s ∈ g.params.stomp, ∃ s', StompParams.validate s = .ok s'

theorem not_hasValidStomp_iff : ¬g.HasValidStomp ↔ g.validStomp = none := by
  rw [← Option.not_isSome_iff_eq_none, Option.isSome_iff_exists]
  simp only [validStomp_eq_some_iff, HasValidStomp, StompParams.validate_eq_ok_iff, exists_and_left,
    exists_eq, and_true, Option.mem_def]

/-- A garden that is neither local nor an HTTP garden is to be reached over STOMP. -/
theorem stomp_or_none_of_ne (remote : g.connectionType ≠ some .local)
    (other : g.connectionType ≠ some .http) :
    g.connectionType = some .stomp ∨ g.connectionType = none := by
  match type : g.connectionType with
  | none => exact .inr rfl
  | some .stomp => exact .inl rfl
  | some .http => exact absurd type other
  | some .local => exact absurd type remote

/-! ## What one repair leads to -/

theorem connectionType_repair (remote : g.connectionType ≠ some .local) :
    (g.NeedsHttp → g.repair.garden.connectionType = some .http) ∧
    (¬g.NeedsHttp → g.repair.garden.connectionType = g.connectionType) := by
  constructor
  · intro needs
    rw [repair_of_needsHttp remote needs]
  · intro other
    rw [repair_of_not_needsHttp remote other]

/-- Repair changes the type of a garden that lacks the valid STOMP block it should have. -/
theorem connectionType_repair_ne_iff : g.repair.garden.connectionType ≠ g.connectionType ↔
    (g.connectionType = some .stomp ∨ g.connectionType = none) ∧ ¬g.HasValidStomp := by
  rw [not_hasValidStomp_iff]
  by_cases isLocal : g.connectionType = some .local
  · simp [repair_of_isLocal isLocal, isLocal]
  obtain ⟨forced, kept⟩ := connectionType_repair isLocal
  by_cases needs : g.NeedsHttp
  · rw [forced needs]
    constructor
    · intro changed
      exact ⟨stomp_or_none_of_ne isLocal (Ne.symm changed), needs.resolve_left (Ne.symm changed)⟩
    · rintro ⟨stomp | unset, -⟩
      · rw [stomp]
        decide
      · rw [unset]
        decide
  · rw [kept needs]
    exact ⟨fun changed => absurd rfl changed, fun h => absurd (.inr h.2) needs⟩

theorem connectionType_repair_of_ne (changed : g.repair.garden.connectionType ≠ g.connectionType) :
    g.repair.garden.connectionType = some .http := by
  by_cases isLocal : g.connectionType = some .local
  · exact absurd (by rw [repair_of_isLocal isLocal]) changed
  · obtain ⟨forced, kept⟩ := connectionType_repair isLocal
    by_cases needs : g.NeedsHttp
    · exact forced needs
    · exact absurd (kept needs) changed

/-- Valid blocks stay, with defaults for what is absent. -/
theorem blocks_repair (remote : g.connectionType ≠ some .local)
    (params : g.repair.garden.connectionParams = some p) :
    (∀ h ∈ g.params.http, ∀ h', h.validate = .ok h' → p.http = some h') ∧
    ∀ s ∈ g.params.stomp, ∀ s', StompParams.validate s = .ok s' → p.stomp = some s := by
  have stomp : p.stomp = g.validStomp := by
    by_cases needs : g.NeedsHttp
    · rw [repair_of_needsHttp remote needs] at params
      cases params
      rfl
    · rw [repair_of_not_needsHttp remote needs] at params
      cases params
      rfl
  refine ⟨fun h given h' passed => ?_, fun s given s' passed => ?_⟩
  · by_cases needs : g.NeedsHttp
    · rw [repair_of_needsHttp remote needs, Option.mem_def.1 given,
        HttpParams.repair_of_passes passed] at params
      cases params
      rfl
    · rw [repair_of_not_needsHttp remote needs] at params
      cases params
      exact blockResult_eq_some_iff.2 ⟨h, given, passed⟩
  · rw [stomp]
    exact validStomp_eq_some_iff.2 ⟨given, (StompParams.validate_eq_ok_iff.1 passed).1⟩

theorem isSettled_repair (g : Garden) : g.repair.garden.IsSettled := by
  unfold IsSettled
  by_cases isLocal : g.connectionType = some .local
  · rw [repair_of_isLocal isLocal, if_pos isLocal]
  · have stays : g.repair.garden.connectionType ≠ some .local := by
      obtain ⟨forced, kept⟩ := connectionType_repair isLocal
      by_cases needs : g.NeedsHttp
      · rw [forced needs]
        decide
      · rw [kept needs]
        exact isLocal
    rw [if_neg stays]
    exact exists_serves_repair isLocal

/-! ## Settled gardens -/

theorem repair_of_isSettled (settled : g.IsSettled) : g.repair = ⟨g, []⟩ := by
  unfold IsSettled at settled
  split at settled
  · next isLocal =>
    have same : { g with connectionParams := none } = g := by rw [← settled]
    simp only [repair, if_pos isLocal, same, settled]
    rfl
  · next remote =>
    obtain ⟨p, params, serves⟩ := settled
    obtain ⟨http, stomp⟩ := ConnectionParams.validate_eq_self_iff.1 serves.passes
    have same : { g with connectionParams := some ⟨p.http, p.stomp⟩ } = g := by
      cases g
      cases params
      rfl
    simp only [repair, if_neg remote, params, Option.getD_some, keepValid_of_passes _ stomp]
    split
    · next type =>
      obtain ⟨h, found⟩ := Option.isSome_iff_exists.1 (serves.http type)
      rw [found, HttpParams.repair_of_passes (http h found)]
      rw [found] at same
      exact congrArg (Repaired.mk · []) same
    · next type =>
      have valid : ¬p.stomp.isNone :=
        mt Option.isNone_iff_eq_none.1 (Option.isSome_iff_ne_none.1 (serves.stomp type))
      rw [if_neg valid, keepValid_of_passes _ http]
      exact congrArg (Repaired.mk · []) same

theorem isSettled_of_garden_repair (same : g.repair.garden = g) : g.IsSettled := by
  have settled := g.isSettled_repair
  rwa [same] at settled

theorem repair_eq_self_iff : g.repair = ⟨g, []⟩ ↔ g.IsSettled :=
  ⟨fun same => isSettled_of_garden_repair (congrArg Repaired.garden same), repair_of_isSettled⟩

/-! ## The contract -/

/-- Repair touches nothing but the type and the parameters. A local garden loses its parameters. Any
other one gets parameters that pass as they are, each block of them with content, with an HTTP block
if it is an HTTP garden and a STOMP block if it is not; a given block that is valid stays, and what
it gives stays. The type changes exactly if it is STOMP or unset and there is no valid STOMP block,
and then to HTTP. Repairing once more finds nothing to repair. -/
theorem repair_contract (g : Garden) :
    (g.repair.garden.id = g.id ∧ g.repair.garden.name = g.name ∧
      g.repair.garden.status = g.status ∧ g.repair.garden.extra = g.extra) ∧
    (g.connectionType = some .local → g.repair.garden.connectionType = some .local ∧
      g.repair.garden.connectionParams = none) ∧
    (g.connectionType ≠ some .local → ∃ p, g.repair.garden.connectionParams = some p ∧
      p.IsChecked ∧
      (g.repair.garden.connectionType = some .http → p.http.isSome) ∧
      (g.repair.garden.connectionType ≠ some .http → p.stomp.isSome) ∧
      (∀ h ∈ g.params.http, ∀ h', h.validate = .ok h' → p.http = some h' ∧ h.IsKeptBy h') ∧
      ∀ s ∈ g.params.stomp, ∀ s', StompParams.validate s = .ok s' → p.stomp = some s) ∧
    (g.repair.garden.connectionType ≠ g.connectionType ↔
      (g.connectionType = some .stomp ∨ g.connectionType = none) ∧ ¬g.HasValidStomp) ∧
    (g.repair.garden.connectionType ≠ g.connectionType →
      g.repair.garden.connectionType = some .http) ∧
    g.repair.garden.repair = ⟨g.repair.garden, []⟩ := by
  refine ⟨?_, fun isLocal => ?_, fun remote => ?_, connectionType_repair_ne_iff,
    connectionType_repair_of_ne, repair_eq_self_iff.2 g.isSettled_repair⟩
  · obtain ⟨type, params, same⟩ := g.exists_garden_repair
    rw [same]
    exact ⟨rfl, rfl, rfl, rfl⟩
  · rw [repair_of_isLocal isLocal]
    exact ⟨isLocal, rfl⟩
  · obtain ⟨p, params, serves⟩ := exists_serves_repair remote
    obtain ⟨http, stomp⟩ := blocks_repair remote params
    refine ⟨p, params, serves.isChecked, serves.http, serves.stomp,
      fun h given h' passed => ?_, stomp⟩
    exact ⟨http h given h' passed, HttpParams.isKeptBy_of_validate passed⟩

/-- A STOMP garden with a STOMP block that lacks the switch becomes an HTTP garden, whose valid HTTP
block stays. -/
theorem repair_contract_forced :
    let h : HttpParams := { host := some "pi", port := some 80, ssl := some true }
    let g : Garden := {
      id := some "1", name := "shed", connectionType := some .stomp
      connectionParams := some {
        http := some h, stomp := some { host := some "broker", port := some 61613, ssl := some {} } } }
    g.repair.garden.connectionType = some .http ∧
      (∃ p h', g.repair.garden.connectionParams = some p ∧ p.IsChecked ∧ p.http = some h' ∧
        h.IsKeptBy h') ∧
      g.repair.garden.repair.repairs = [] := by
  intro h g
  obtain ⟨-, -, remote, changes, http, again⟩ := repair_contract g
  have changed : g.repair.garden.connectionType ≠ g.connectionType := by
    refine changes.2 ⟨.inl rfl, fun ⟨s, given, s', passed⟩ => ?_⟩
    cases given
    cases passed
  obtain ⟨p, params, checked, -, -, kept, -⟩ := remote (by decide)
  obtain ⟨found, keeps⟩ := kept h rfl h.withDefaults rfl
  refine ⟨http changed, ⟨p, _, params, checked, found, keeps⟩, ?_⟩
  rw [again]

end Garden

end GardenAdmin
