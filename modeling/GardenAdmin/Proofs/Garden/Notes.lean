import Mathlib.Data.List.Nodup
import GardenAdmin.Proofs.Garden.Settled

/-!
# What the notes of a repair say

`Repair.Describes` says what each kind of repair does to a garden. The notes are about just the
repairs that describe what became of the garden, one each. There is none exactly if the garden was
acceptable, and then nothing happened but that HTTP defaults were filled in (`Garden.FillsIn`).
-/

namespace GardenAdmin

/-! ## The texts -/

/-- What a note says before it names the garden. -/
def Repair.opening (r : Repair) : String := r.note ""

theorem Repair.note_eq (r : Repair) (garden : String) : r.note garden = r.opening ++ garden := by
  cases r <;> exact congrArg (· ++ garden) String.append_empty.symm

theorem Repair.opening_injective : Function.Injective opening := by
  intro r r'
  cases r <;> cases r' <;> decide +kernel

/-- The notes on different repairs to a garden differ. -/
theorem Repair.note_injective (garden : String) : Function.Injective (note garden) := by
  intro r r' same
  rw [note_eq, note_eq] at same
  exact opening_injective (String.append_left_inj garden |>.1 same)

/-! ## Valid blocks -/

section

variable {β : Type} {validate : β → Except ConfigErrors β} {block : Option β}

/-- The block is valid. -/
def Passes (validate : β → Except ConfigErrors β) (b : β) : Prop := ∃ b', validate b = .ok b'

theorem not_passes_iff {b : β} : ¬Passes validate b ↔ ∃ e, validate b = .error e := by
  unfold Passes
  cases validate b with
  | ok b' => simp
  | error e => simp

theorem blockResult_eq_none (invalid : ∃ b ∈ block, ¬Passes validate b) :
    blockResult validate block = none := by
  obtain ⟨b, given, invalid⟩ := invalid
  refine Option.eq_none_iff_forall_ne_some.2 fun b' kept => ?_
  obtain ⟨b, found, passed⟩ := blockResult_eq_some_iff.1 kept
  obtain rfl := Option.mem_unique given found
  exact invalid ⟨b', passed⟩

/-- Only an invalid block is dropped. -/
theorem mem_snd_keepValid {repair r : Repair} : r ∈ (keepValid validate repair block).2 ↔
    r = repair ∧ ∃ b ∈ block, ¬Passes validate b := by
  cases block with
  | none => simp [keepValid]
  | some b =>
    simp only [keepValid, Option.mem_some_iff, exists_eq_left', not_passes_iff]
    cases validate b with
    | ok b' => simp
    | error e => simp

theorem nodup_snd_keepValid (validate : β → Except ConfigErrors β) (repair : Repair)
    (block : Option β) : (keepValid validate repair block).2.Nodup := by
  cases block with
  | none => exact List.nodup_nil
  | some b =>
    simp only [keepValid]
    split
    · exact List.nodup_nil
    · exact List.nodup_singleton repair

theorem snd_keepValid_eq_nil_iff {repair : Repair} :
    (keepValid validate repair block).2 = [] ↔ ∀ b ∈ block, Passes validate b := by
  rw [List.eq_nil_iff_forall_not_mem]
  simp only [mem_snd_keepValid, not_and, not_exists, not_not, forall_eq]

end

namespace HttpParams

variable {h h' : HttpParams} {block : Option HttpParams}

theorem passes_iff : Passes validate h ↔ h.faults = [] := by
  simp only [Passes, validate_eq_ok_iff, exists_and_left, exists_eq, and_true]

/-- Defaults are used for an invalid block if that makes it valid, and in place of it otherwise. -/
theorem mem_snd_repair {r : Repair} : r ∈ (repair block).2 ↔
    r = .usedSomeDefaults ∧ (∃ h ∈ block, ¬Passes validate h ∧
      h.overDefaults.validate = .ok (repair block).1) ∨
    r = .usedAllDefaults ∧ (∀ h ∈ block, ¬Passes validate h ∧ ¬Passes validate h.overDefaults) ∧
      (repair block).1 = defaults := by
  cases block with
  | none => simp [repair]
  | some h =>
    simp only [repair, Option.mem_some_iff, forall_eq', exists_eq_left', not_passes_iff]
    cases h.validate with
    | ok valid => simp
    | error e =>
      cases h.overDefaults.validate with
      | ok valid => simp
      | error e' => simp

theorem nodup_snd_repair (block : Option HttpParams) : (repair block).2.Nodup := by
  unfold repair
  repeat' split
  all_goals simp

theorem snd_repair_eq_nil_iff : (repair block).2 = [] ↔ ∃ h ∈ block, Passes validate h := by
  cases block with
  | none => simp [repair]
  | some h =>
    simp only [repair, Option.mem_some_iff, exists_eq_left', Passes]
    cases h.validate with
    | ok valid => simp
    | error e =>
      cases h.overDefaults.validate with
      | ok valid => simp
      | error e' => simp

/-- The parameters with values for some of the absent fields that have a default. -/
def FillsIn (h h' : HttpParams) : Prop :=
  ∃ urlPrefix caVerify ssl, h' = { h with
    urlPrefix := h.urlPrefix <|> urlPrefix
    caVerify := h.caVerify <|> caVerify
    ssl := h.ssl <|> ssl }

theorem fillsIn_withDefaults (h : HttpParams) : h.FillsIn h.withDefaults := ⟨_, _, _, rfl⟩

/-- What is filled in breaks no rule and repairs none. -/
theorem FillsIn.passes_iff (fills : h.FillsIn h') : Passes validate h' ↔ Passes validate h := by
  obtain ⟨urlPrefix, caVerify, ssl, rfl⟩ := fills
  rw [HttpParams.passes_iff, HttpParams.passes_iff]
  rfl

end HttpParams

theorem StompParams.passes_iff {s : StompParams} : Passes validate s ↔ s.faults = [] := by
  simp only [Passes, validate_eq_ok_iff, exists_and_left, exists_eq, and_true]

/-! ## What a repair does -/

/-- The repair tells the garden after the repairs from the garden before. -/
def Repair.Describes (before after : Garden) : Repair → Prop
  | .clearedLocal => before.connectionType = some .local ∧ before.params.isEmpty = false ∧
      after.connectionParams = none
  | .droppedStomp => before.connectionType ≠ some .local ∧
      (∃ s ∈ before.params.stomp, ¬Passes StompParams.validate s) ∧ after.params.stomp = none
  | .droppedHttp => before.connectionType ≠ some .local ∧
      (∃ h ∈ before.params.http, ¬Passes HttpParams.validate h) ∧ after.params.http = none
  | .forcedHttp => before.connectionType ≠ some .http ∧ after.connectionType = some .http
  | .usedSomeDefaults => before.connectionType ≠ some .local ∧
      ∃ h ∈ before.params.http, ¬Passes HttpParams.validate h ∧
        ∃ h' ∈ after.params.http, h.overDefaults.validate = .ok h'
  | .usedAllDefaults => before.connectionType ≠ some .local ∧
      (∀ h ∈ before.params.http,
        ¬Passes HttpParams.validate h ∧ ¬Passes HttpParams.validate h.overDefaults) ∧
      after.params.http = some HttpParams.defaults

namespace Garden

variable {g g' : Garden}

theorem not_needsHttp_iff :
    ¬g.NeedsHttp ↔ g.connectionType ≠ some .http ∧ g.HasValidStomp := by
  rw [NeedsHttp, ← not_hasValidStomp_iff, not_or, not_not]

/-- The garden can stay as it is, up to HTTP defaults: a local one has no entry point, any other one
has the valid entry point of its type and no invalid one. -/
def IsAcceptable (g : Garden) : Prop :=
  if g.connectionType = some .local then g.params.http = none ∧ g.params.stomp = none
  else if g.connectionType = some .http then
    (∃ h ∈ g.params.http, Passes HttpParams.validate h) ∧
      ∀ s ∈ g.params.stomp, Passes StompParams.validate s
  else
    (∃ s ∈ g.params.stomp, Passes StompParams.validate s) ∧
      ∀ h ∈ g.params.http, Passes HttpParams.validate h

/-- The garden with HTTP defaults filled in, if anything. -/
structure FillsIn (g g' : Garden) : Prop where
  rest : g' = { g with connectionParams := g'.connectionParams }
  http : Option.Rel HttpParams.FillsIn g.params.http g'.params.http
  stomp : g'.params.stomp = g.params.stomp

/-! ## The repairs of a garden -/

theorem repairs_of_isLocal (isLocal : g.connectionType = some .local) :
    g.repair.repairs = if g.params.isEmpty then [] else [.clearedLocal] := by
  simp only [repair, if_pos isLocal]
  rfl

/-- The repairs of the STOMP block come first. -/
theorem repairs_of_needsHttp (remote : g.connectionType ≠ some .local) (needs : g.NeedsHttp) :
    g.repair.repairs =
      (keepValid StompParams.validate .droppedStomp g.params.stomp).2 ++
        ((if g.connectionType = some .http then [] else [.forcedHttp]) ++
          (HttpParams.repair g.params.http).2) := by
  simp only [repair, if_neg remote, fst_keepValid]
  split
  · rfl
  · next other =>
    have invalid : g.validStomp = none := needs.resolve_left other
    exact congrArg Repaired.repairs (if_pos (Option.isNone_iff_eq_none.2 invalid))

theorem repairs_of_not_needsHttp (remote : g.connectionType ≠ some .local) (other : ¬g.NeedsHttp) :
    g.repair.repairs =
      (keepValid StompParams.validate .droppedStomp g.params.stomp).2 ++
        (keepValid HttpParams.validate .droppedHttp g.params.http).2 := by
  obtain ⟨type, valid⟩ := not_or.1 other
  simp only [repair, if_neg remote, if_neg type, fst_keepValid]
  exact congrArg Repaired.repairs (if_neg (mt Option.isNone_iff_eq_none.1 valid))

/-! Every repair says what happened, and everything that happened is a repair. -/

theorem mem_repairs_of_isLocal (isLocal : g.connectionType = some .local) {r : Repair} :
    r ∈ g.repair.repairs ↔ r.Describes g g.repair.garden := by
  rw [repairs_of_isLocal isLocal, repair_of_isLocal isLocal]
  cases empty : g.params.isEmpty <;> cases r <;> simp [Repair.Describes, isLocal, empty]

theorem mem_repairs_of_needsHttp (remote : g.connectionType ≠ some .local) (needs : g.NeedsHttp)
    {r : Repair} : r ∈ g.repair.repairs ↔ r.Describes g g.repair.garden := by
  have params : g.repair.garden.params =
      ⟨some (HttpParams.repair g.params.http).1, g.validStomp⟩ := by
    rw [repair_of_needsHttp remote needs]
    rfl
  have type : g.repair.garden.connectionType = some .http := (connectionType_repair remote).1 needs
  rw [repairs_of_needsHttp remote needs]
  simp only [List.mem_append, mem_snd_keepValid, HttpParams.mem_snd_repair]
  cases r with
  | droppedStomp =>
    have gone : (∃ s ∈ g.params.stomp, ¬Passes StompParams.validate s) → g.validStomp = none :=
      blockResult_eq_none
    simpa [Repair.Describes, params, remote] using gone
  | _ => simp [Repair.Describes, params, type, remote]

theorem mem_repairs_of_not_needsHttp (remote : g.connectionType ≠ some .local)
    (other : ¬g.NeedsHttp) {r : Repair} :
    r ∈ g.repair.repairs ↔ r.Describes g g.repair.garden := by
  have params : g.repair.garden.params =
      ⟨blockResult HttpParams.validate g.params.http, g.validStomp⟩ := by
    rw [repair_of_not_needsHttp remote other]
    rfl
  have type : g.repair.garden.connectionType = g.connectionType :=
    (connectionType_repair remote).2 other
  have stomp : (∃ s ∈ g.params.stomp, ¬Passes StompParams.validate s) → g.validStomp = none :=
    blockResult_eq_none
  have http : (∃ h ∈ g.params.http, ¬Passes HttpParams.validate h) →
      blockResult HttpParams.validate g.params.http = none := blockResult_eq_none
  rw [repairs_of_not_needsHttp remote other]
  simp only [List.mem_append, mem_snd_keepValid, Repair.Describes, params, type]
  cases r with
  | clearedLocal | forcedHttp => simp [remote]
  | droppedStomp => simpa [remote] using stomp
  | droppedHttp => simpa [remote] using http
  | usedSomeDefaults =>
    -- What is kept was valid as it was given.
    simp only [reduceCtorEq, false_and, or_self, false_iff]
    rintro ⟨-, h, given, invalid, h', kept, -⟩
    exact absurd ((http ⟨h, given, invalid⟩).symm.trans kept) nofun
  | usedAllDefaults =>
    simp only [reduceCtorEq, false_and, or_self, false_iff]
    rintro ⟨-, invalid, kept⟩
    obtain ⟨h, given, passed⟩ := blockResult_eq_some_iff.1 kept
    exact (invalid h given).1 ⟨_, passed⟩

theorem mem_repairs_iff {r : Repair} :
    r ∈ g.repair.repairs ↔ r.Describes g g.repair.garden := by
  by_cases isLocal : g.connectionType = some .local
  · exact mem_repairs_of_isLocal isLocal
  · by_cases needs : g.NeedsHttp
    · exact mem_repairs_of_needsHttp isLocal needs
    · exact mem_repairs_of_not_needsHttp isLocal needs

theorem nodup_repairs (g : Garden) : g.repair.repairs.Nodup := by
  by_cases isLocal : g.connectionType = some .local
  · rw [repairs_of_isLocal isLocal]
    split
    · exact List.nodup_nil
    · exact List.nodup_singleton _
  have stomp := nodup_snd_keepValid StompParams.validate .droppedStomp g.params.stomp
  by_cases needs : g.NeedsHttp
  · rw [repairs_of_needsHttp isLocal needs]
    have rest : ((if g.connectionType = some .http then [] else [Repair.forcedHttp]) ++
        (HttpParams.repair g.params.http).2).Nodup := by
      split
      · exact HttpParams.nodup_snd_repair _
      · refine List.nodup_cons.2 ⟨fun mem => ?_, HttpParams.nodup_snd_repair _⟩
        simp [HttpParams.mem_snd_repair] at mem
    refine List.nodup_append'.2 ⟨stomp, rest, fun r left right => ?_⟩
    obtain ⟨rfl, -⟩ := mem_snd_keepValid.1 left
    simp [HttpParams.mem_snd_repair] at right
  · rw [repairs_of_not_needsHttp isLocal needs]
    refine List.nodup_append'.2 ⟨stomp, nodup_snd_keepValid _ _ _, fun r left right => ?_⟩
    obtain ⟨rfl, -⟩ := mem_snd_keepValid.1 left
    exact absurd (mem_snd_keepValid.1 right).1 (by decide)

/-- Nothing is repaired exactly if the garden is acceptable. -/
theorem repairs_eq_nil_iff : g.repair.repairs = [] ↔ g.IsAcceptable := by
  unfold IsAcceptable
  split
  · next isLocal =>
    rw [repairs_of_isLocal isLocal, ConnectionParams.isEmpty]
    simp
  · next remote =>
    split
    · next http =>
      rw [repairs_of_needsHttp remote (.inl http), if_pos http, List.nil_append,
        List.append_eq_nil_iff, snd_keepValid_eq_nil_iff, HttpParams.snd_repair_eq_nil_iff,
        and_comm]
    · next other =>
      by_cases valid : g.HasValidStomp
      · rw [repairs_of_not_needsHttp remote (not_needsHttp_iff.2 ⟨other, valid⟩),
          List.append_eq_nil_iff, snd_keepValid_eq_nil_iff, snd_keepValid_eq_nil_iff]
        refine and_congr_left fun _ => ⟨fun _ => valid, fun passes s' given' => ?_⟩
        obtain ⟨s, given, passed⟩ := passes
        obtain rfl := Option.mem_unique given given'
        exact passed
      · rw [repairs_of_needsHttp remote (.inr (not_hasValidStomp_iff.1 valid)), if_neg other]
        simp only [List.append_eq_nil_iff, List.cons_ne_nil, false_and, and_false, false_iff]
        exact fun h => valid h.1

/-! ## Silence -/

/-- The blocks of an acceptable garden that is not local are all valid. -/
theorem IsAcceptable.keepsRules (h : g.IsAcceptable) (remote : g.connectionType ≠ some .local) :
    g.params.KeepsRules := by
  rw [IsAcceptable, if_neg remote] at h
  constructor
  · intro b given
    refine HttpParams.passes_iff.1 ?_
    split at h
    · obtain ⟨⟨b', given', valid⟩, -⟩ := h
      rwa [Option.mem_unique given given']
    · exact h.2 b given
  · intro s given
    refine StompParams.passes_iff.1 ?_
    split at h
    · exact h.2 s given
    · obtain ⟨⟨s', given', valid⟩, -⟩ := h
      rwa [Option.mem_unique given given']

/-- All that an acceptable garden gets is defaults. -/
theorem garden_repair_of_isAcceptable (h : g.IsAcceptable)
    (remote : g.connectionType ≠ some .local) :
    g.repair.garden = { g with connectionParams := some g.params.withDefaults } := by
  have rules := h.keepsRules remote
  have passed (b : HttpParams) (given : g.params.http = some b) : b.validate = .ok b.withDefaults :=
    HttpParams.validate_eq_ok_iff.2 ⟨rules.http b given, rfl⟩
  have stomp : g.validStomp = g.params.stomp := by
    refine (blockResult_of_forall fun s given => ?_).trans Option.map_id'
    exact StompParams.validate_eq_ok_iff.2 ⟨rules.stomp s given, rfl⟩
  rw [IsAcceptable, if_neg remote] at h
  split at h
  · next type =>
    obtain ⟨⟨b, given, -⟩, -⟩ := h
    rw [repair_of_needsHttp remote (.inl type), stomp, ConnectionParams.withDefaults,
      Option.mem_def.1 given, HttpParams.repair_of_passes (passed b given), ← type]
    rfl
  · next type =>
    rw [repair_of_not_needsHttp remote (not_needsHttp_iff.2 ⟨type, h.1⟩), stomp,
      blockResult_of_forall passed]
    rfl

/-- Without an entry point it makes no difference whether the parameters are absent or empty. -/
theorem fillsIn_of_isAcceptable (h : g.IsAcceptable) : g.FillsIn g.repair.garden := by
  by_cases isLocal : g.connectionType = some .local
  · rw [IsAcceptable, if_pos isLocal] at h
    rw [repair_of_isLocal isLocal]
    refine ⟨rfl, ?_, h.2.symm⟩
    rw [h.1]
    exact .none
  · rw [garden_repair_of_isAcceptable h isLocal]
    refine ⟨rfl, ?_, rfl⟩
    change Option.Rel _ g.params.http (g.params.http.map (·.withDefaults))
    cases g.params.http with
    | none => exact .none
    | some h => exact .some h.fillsIn_withDefaults

end Garden

/-- A repair changes more than defaults do. -/
theorem Repair.not_fillsIn_of_describes {r : Repair} {g g' : Garden} (happened : r.Describes g g') :
    ¬g.FillsIn g' := by
  rintro ⟨rest, http, stomp⟩
  cases r with
  | clearedLocal =>
    obtain ⟨-, given, cleared⟩ := happened
    have nothing : g'.params = {} := by rw [Garden.params, cleared, Option.getD_none]
    rw [nothing] at http stomp
    have absent : g.params.http = none := by
      cases found : g.params.http with
      | none => rfl
      | some h =>
        rw [found] at http
        cases http
    rw [ConnectionParams.isEmpty, absent, ← stomp] at given
    cases given
  | droppedStomp =>
    obtain ⟨-, ⟨s, given, -⟩, gone⟩ := happened
    cases gone.symm.trans (stomp.trans given)
  | droppedHttp =>
    obtain ⟨-, ⟨h, given, -⟩, gone⟩ := happened
    rw [Option.mem_def.1 given, gone] at http
    cases http
  | forcedHttp =>
    obtain ⟨other, forced⟩ := happened
    exact other ((congrArg Garden.connectionType rest).symm.trans forced)
  | usedSomeDefaults =>
    obtain ⟨-, h, given, invalid, h', used, filled⟩ := happened
    rw [Option.mem_def.1 given, Option.mem_def.1 used] at http
    cases http with
    | some filling =>
      exact invalid (filling.passes_iff.1 ⟨h', HttpParams.validate_of_validate filled⟩)
  | usedAllDefaults =>
    obtain ⟨-, invalid, used⟩ := happened
    cases found : g.params.http with
    | none =>
      rw [found, used] at http
      cases http
    | some h =>
      rw [found, used] at http
      cases http with
      | some filling => exact (invalid h found).1 (filling.passes_iff.1 ⟨_, rfl⟩)

namespace Garden

variable {g : Garden}

theorem repairs_eq_nil_iff_fillsIn : g.repair.repairs = [] ↔ g.FillsIn g.repair.garden := by
  constructor
  · intro silent
    exact fillsIn_of_isAcceptable (repairs_eq_nil_iff.1 silent)
  · intro fills
    refine List.eq_nil_iff_forall_not_mem.2 fun r made => ?_
    exact r.not_fillsIn_of_describes (mem_repairs_iff.1 made) fills

theorem repairs_of_isLocal_of_given (isLocal : g.connectionType = some .local)
    (given : g.params.isEmpty = false) : g.repair.repairs = [.clearedLocal] := by
  rw [repairs_of_isLocal isLocal, given]
  rfl

/-! ## The notes -/

theorem notes_repair_eq (g : Garden) : g.repair.notes = g.repair.repairs.map (·.note g.name) := by
  obtain ⟨type, params, same⟩ := g.exists_garden_repair
  rw [Repaired.notes, same]

theorem notes_repair_eq_nil_iff : g.repair.notes = [] ↔ g.repair.repairs = [] := by
  rw [notes_repair_eq, List.map_eq_nil_iff]

/-- Repair is silent about a garden exactly if it is acceptable. A garden that is not local then gets
the parameters that validation returns, a local one none. This is also exactly if at most HTTP
defaults were filled in. Otherwise there is one note on every repair that says what happened and none
on any other; a local garden has one note whatever it loses. -/
theorem notes_repair (g : Garden) :
    (g.repair.notes = [] ↔ g.IsAcceptable) ∧
    (g.repair.notes = [] →
      if g.connectionType = some .local then
        g.repair.garden = { g with connectionParams := none }
      else ∃ q, g.params.validate = .ok q ∧
        g.repair.garden = { g with connectionParams := some q }) ∧
    (g.repair.notes = [] ↔ g.FillsIn g.repair.garden) ∧
    (g.connectionType = some .local → g.params.isEmpty = false →
      g.repair.notes = [Repair.clearedLocal.note g.name]) ∧
    g.repair.notes.Nodup ∧ (∀ n ∈ g.repair.notes, ∃ r : Repair, n = r.note g.name) ∧
    ∀ r : Repair, r.note g.name ∈ g.repair.notes ↔ r.Describes g g.repair.garden := by
  refine ⟨?_, fun silent => ?_, ?_, fun isLocal given => ?_, ?_, fun n mem => ?_, fun r => ?_⟩
  · rw [notes_repair_eq_nil_iff, repairs_eq_nil_iff]
  · have acceptable := repairs_eq_nil_iff.1 (notes_repair_eq_nil_iff.1 silent)
    split
    · next isLocal => exact repair_of_isLocal isLocal
    · next remote =>
      exact ⟨_, ConnectionParams.validate_eq_ok_iff.2 ⟨acceptable.keepsRules remote, rfl⟩,
        garden_repair_of_isAcceptable acceptable remote⟩
  · rw [notes_repair_eq_nil_iff, repairs_eq_nil_iff_fillsIn]
  · rw [notes_repair_eq, repairs_of_isLocal_of_given isLocal given, List.map_singleton]
  · rw [notes_repair_eq]
    exact g.nodup_repairs.map (Repair.note_injective g.name)
  · rw [notes_repair_eq] at mem
    obtain ⟨r, -, rfl⟩ := List.mem_map.1 mem
    exact ⟨r, rfl⟩
  · rw [notes_repair_eq, List.mem_map_of_injective (Repair.note_injective g.name), mem_repairs_iff]

/-- A STOMP garden collects three notes: its STOMP block lacks the switch, so that it becomes an HTTP
garden, and its HTTP block lacks the port. Were it local, there would be one. An HTTP garden with a
valid block has none. -/
theorem notes_repair_shed :
    let g : Garden := {
      id := some "1", name := "shed", connectionType := some .stomp
      connectionParams := some {
        http := some { host := some "pi" }
        stomp := some { host := some "broker", port := some 61613, ssl := some {} } } }
    let own : Garden := { g with connectionType := some .local }
    let plain : Garden := { g with
      connectionType := some .http
      connectionParams := some { http := some { host := some "pi", port := some 80 } } }
    (¬g.IsAcceptable ∧ ¬g.FillsIn g.repair.garden ∧
      Repair.droppedStomp.Describes g g.repair.garden ∧
      Repair.forcedHttp.Describes g g.repair.garden ∧
      Repair.usedSomeDefaults.Describes g g.repair.garden ∧
      ¬Repair.usedAllDefaults.Describes g g.repair.garden) ∧
    own.repair.notes = [Repair.clearedLocal.note "shed"] ∧
    plain.IsAcceptable ∧ ∃ q, plain.params.validate = .ok q ∧
      plain.repair.garden = { plain with connectionParams := some q } := by
  intro g own plain
  refine ⟨?_, own.notes_repair.2.2.2.1 rfl rfl, ?_⟩
  · obtain ⟨acceptable, -, fills, -, -, -, describes⟩ := g.notes_repair
    have notes : g.repair.notes = ["Removed unparseable stomp connection params from garden shed",
        "Forcing connection type to HTTP for garden shed",
        "Used defaults for some values of http connection params for garden shed"] := by
      decide +kernel
    have noted : g.repair.notes ≠ [] := by
      rw [notes]
      exact List.cons_ne_nil _ _
    refine ⟨mt acceptable.2 noted, mt fills.2 noted, (describes _).1 ?_, (describes _).1 ?_,
      (describes _).1 ?_, mt (describes _).2 ?_⟩
    all_goals
      rw [notes]
      decide +kernel
  · obtain ⟨acceptable, result, -⟩ := plain.notes_repair
    have silent : plain.repair.notes = [] := rfl
    exact ⟨acceptable.1 silent, result silent⟩

end Garden

end GardenAdmin
