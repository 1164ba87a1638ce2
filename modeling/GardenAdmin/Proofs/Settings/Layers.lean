import Mathlib.Data.List.Monad
import GardenAdmin.Program
import GardenAdmin.Proofs.Text.Decimal
import GardenAdmin.Proofs.Wire.Field

/-!
# Which layer decides

Each field of the settings is that of the highest layer that sets it, whatever the layers do about
the other fields (`Invocation.settings_layered`). What a file sets is read off its document, field by
field (`SettingsField.ofLayer_of_decoder`).
-/

namespace GardenAdmin

open Json Wire

/-- The fields of the settings, which are set one by one. -/
inductive SettingsField where
  | baseUrl
  | token
  | timeoutSeconds
  | eventsPath
  | logJson
  deriving DecidableEq, Repr

namespace SettingsField

/-- What the field holds. -/
def Carrier : SettingsField → Type
  | baseUrl | token | eventsPath => String
  | timeoutSeconds => Nat
  | logJson => Bool

instance (x : SettingsField) : DecidableEq x.Carrier :=
  match x with
  | baseUrl | token | eventsPath => inferInstanceAs (DecidableEq String)
  | timeoutSeconds => inferInstanceAs (DecidableEq Nat)
  | logJson => inferInstanceAs (DecidableEq Bool)

/-- The field of the settings. Only the token may be missing. -/
def ofSettings : (x : SettingsField) → Settings → Option x.Carrier
  | baseUrl, s => some s.api.baseUrl
  | token, s => s.api.token
  | timeoutSeconds, s => some s.api.timeoutSeconds
  | eventsPath, s => some s.events.path
  | logJson, s => some s.log.json

/-- The fields are all there is to the settings. -/
theorem eq_of_ofSettings {s t : Settings}
    (same : ∀ x : SettingsField, x.ofSettings s = x.ofSettings t) : s = t := by
  have url : s.api.baseUrl = t.api.baseUrl := Option.some.inj (same baseUrl)
  have token : s.api.token = t.api.token := same token
  have seconds : s.api.timeoutSeconds = t.api.timeoutSeconds := Option.some.inj (same timeoutSeconds)
  have path : s.events.path = t.events.path := Option.some.inj (same eventsPath)
  have json : s.log.json = t.log.json := Option.some.inj (same logJson)
  obtain ⟨⟨_, _, _⟩, ⟨_⟩, ⟨_⟩⟩ := s
  simp_all

/-- The field of a layer. -/
def ofLayer : (x : SettingsField) → SettingsLayer → Option x.Carrier
  | baseUrl, l => l.baseUrl
  | token, l => l.token
  | timeoutSeconds, l => l.timeoutSeconds
  | eventsPath, l => l.eventsPath
  | logJson, l => l.logJson

/-- A layer comes before what it is put onto, in each field. -/
theorem ofSettings_onto (x : SettingsField) (l : SettingsLayer) (s : Settings) :
    x.ofSettings (l.onto s) = (x.ofLayer l <|> x.ofSettings s) := by
  have getD {α : Type} (o : Option α) (a : α) : some (o.getD a) = (o <|> some a) := by
    cases o <;> rfl
  cases x
  case token => rfl
  all_goals exact getD _ _

/-! ## Options and environment -/

/-- What the options of a command line set. Logging as JSON can only be switched on. -/
def inOptions : (x : SettingsField) → SharedOptions → Option x.Carrier
  | baseUrl, o => o.url
  | token, o => o.token
  | logJson, o => if o.logJson then some true else none
  | timeoutSeconds, _ | eventsPath, _ => none

/-- What the environment sets. -/
def inEnvironment : (x : SettingsField) → Environment → Option x.Carrier
  | baseUrl, env => env "TRELLIS_URL"
  | token, env => env "TRELLIS_TOKEN"
  | timeoutSeconds, env => env "TRELLIS_TIMEOUT_SECS" >>= Text.nat64?
  | logJson, env => (env "TRELLIS_LOG_JSON").map isYes
  | eventsPath, _ => none

theorem ofLayer_environment (x : SettingsField) (env : Environment) :
    x.ofLayer env.layer = x.inEnvironment env := by
  cases x <;> rfl

theorem inEnvironment_timeoutSeconds {env : Environment} {n : Nat} :
    timeoutSeconds.inEnvironment env = some n ↔ ∃ text, env "TRELLIS_TIMEOUT_SECS" = some text ∧
      Text.WritesUnsigned text.toList n ∧ n < 2 ^ 64 := by
  change env "TRELLIS_TIMEOUT_SECS" >>= Text.nat64? = some n ↔ _
  rw [Option.bind_eq_bind, Option.bind_eq_some_iff]
  simp only [Text.nat64?_eq_some_iff]

/-- The environment stands in for two of the options, where it counts in any case. -/
theorem ofLayer_options (x : SettingsField) (env : Environment) (flags : SharedOptions) :
    (x.ofLayer (flags.orElse (.ofEnvironment env)).layer <|> x.inEnvironment env) =
      (x.inOptions flags <|> x.inEnvironment env) := by
  have twice {α : Type} (o o' : Option α) : ((o <|> o') <|> o') = (o <|> o') := by
    cases o <;> cases o' <;> rfl
  cases x
  case baseUrl | token => exact twice _ _
  case timeoutSeconds | eventsPath => rfl
  case logJson =>
    have same : (flags.orElse (.ofEnvironment env)).logJson = flags.logJson := Bool.or_false _
    simp only [ofLayer, SharedOptions.layer, inOptions, same]
    rfl

/-! ## Files -/

/-- The block of a file that the field stands in, with its number. -/
def block : SettingsField → String × Nat
  | baseUrl | token | timeoutSeconds => ("api", 0)
  | eventsPath => ("events", 1)
  | logJson => ("log", 2)

/-- The key of the field in its block, with its number. -/
def key : SettingsField → String × Nat
  | baseUrl => ("base_url", 0)
  | token => ("token", 1)
  | timeoutSeconds => ("request_timeout_secs", 2)
  | eventsPath => ("path", 0)
  | logJson => ("json", 0)

/-- The document that stands in the place of the field. -/
def inDoc? (x : SettingsField) (doc : Doc) : Option Doc :=
  inPlace? x.block.1 x.block.2 doc >>= inPlace? x.key.1 x.key.2

/-- The value that a document writes for the field. -/
def value? : (x : SettingsField) → Doc → Option x.Carrier
  | baseUrl, .string s | token, .string s | eventsPath, .string s => s
  | timeoutSeconds, .number (some (.int n)) => if 0 ≤ n ∧ n < 2 ^ 64 then some n.toNat else none
  | logJson, .bool b => some b
  | _, _ => none

/-- What a file with that document sets. -/
def setBy (x : SettingsField) (doc : Doc) : Option x.Carrier := x.inDoc? doc >>= x.value?

/-- How the field is read. -/
def decoder : (x : SettingsField) → Decoder x.Carrier
  | baseUrl | token | eventsPath => Decoder.string
  | timeoutSeconds => Decoder.nat64
  | logJson => Decoder.bool

/-- The layout of the block. -/
def blockLayout : SettingsField → Layout SettingsLayer
  | baseUrl | token | timeoutSeconds => SettingsLayer.apiLayout
  | eventsPath => SettingsLayer.eventsLayout
  | logJson => SettingsLayer.logLayout

/-- The field of a file that reads the block. -/
def blockField (x : SettingsField) : FieldLayout SettingsLayer :=
  SettingsLayer.fileLayout.fields.get ⟨x.block.2, by cases x <;> decide⟩

/-- The field of the block that reads the key. -/
def keyField (x : SettingsField) : FieldLayout SettingsLayer :=
  x.blockLayout.fields.get ⟨x.key.2, by cases x <;> decide⟩

theorem blockField_name (x : SettingsField) : x.blockField.name = x.block.1 := by
  cases x <;> rfl

theorem keyField_name (x : SettingsField) : x.keyField.name = x.key.1 := by
  cases x <;> rfl

/-- Of the blocks only that of the field sets it. -/
theorem isolates_block (x : SettingsField) (room : Nat) :
    SettingsLayer.fileLayout.Isolates x.blockField room x.ofLayer
      fun room d => x.ofLayer <$> x.blockLayout.decoder room d where
  mem := List.get_mem _ _
  named := by decide
  plain := by cases x <;> rfl
  sets d set made := by
    obtain ⟨l, value, copies⟩ : ∃ l, x.blockLayout.decoder room d = .ok l ∧
        ∀ s, x.ofLayer (set s) = x.ofLayer l := by
      cases x
      all_goals
        obtain ⟨l, value, rfl⟩ := map_eq_ok_iff.1 made
        exact ⟨l, value, fun _ => rfl⟩
    exact ⟨x.ofLayer l, map_eq_ok_iff.2 ⟨l, value, rfl⟩, copies⟩
  others f mem other := by
    simp only [SettingsLayer.fileLayout, List.mem_cons, List.not_mem_nil, or_false] at mem
    rcases mem with rfl | rfl | rfl <;> cases x
    all_goals first | exact absurd rfl other | exact leaves_of_read rfl fun _ _ => rfl

/-- Of the keys of a block only that of the field sets it. -/
theorem isolates_key (x : SettingsField) (room : Nat) :
    x.blockLayout.Isolates x.keyField room x.ofLayer x.decoder.optional where
  mem := List.get_mem _ _
  named := by cases x <;> decide
  plain := by cases x <;> rfl
  sets d set made := by
    cases x
    all_goals
      obtain ⟨a, value, rfl⟩ := map_eq_ok_iff.1 made
      exact ⟨a, value, fun _ => rfl⟩
  others f mem other := by
    cases x
    case baseUrl | token | timeoutSeconds =>
      simp only [blockLayout, SettingsLayer.apiLayout, List.mem_cons, List.not_mem_nil,
        or_false] at mem
      rcases mem with rfl | rfl | rfl
      all_goals first | exact absurd rfl other | exact leaves_of_read rfl fun _ _ => rfl
    case eventsPath | logJson => exact absurd (congrArg _ (List.mem_singleton.1 mem)) other

variable {x : SettingsField} {room : Nat} {doc d : Doc} {l : SettingsLayer} {a : x.Carrier}

theorem value?_of_decoder (done : x.decoder room d = .ok a) : x.value? d = some a := by
  cases x
  case baseUrl | token | eventsPath =>
    change Decoder.string room d = .ok a at done
    unfold Decoder.string at done
    split at done
    next => exact congrArg some (Except.ok.inj done)
    next => cases done
  case logJson =>
    change Decoder.bool room d = .ok a at done
    unfold Decoder.bool at done
    split at done
    next => exact congrArg some (Except.ok.inj done)
    next => cases done
  case timeoutSeconds =>
    change Decoder.nat64 room d = .ok a at done
    unfold Decoder.nat64 at done
    split at done
    next n =>
      split at done
      next range =>
        have range' : 0 ≤ n ∧ n < 2 ^ 64 := ⟨range.1, Int.lt_of_le_of_lt range.2 (by decide)⟩
        exact (if_pos range').trans (congrArg some (Except.ok.inj done))
      next => cases done
    next => cases done

theorem ofLayer_blank (x : SettingsField) : x.ofLayer {} = none := by
  cases x <;> rfl

theorem comes_block (done : SettingsLayer.decoder room doc = .ok l) :
    Comes (fun room d => x.ofLayer <$> x.blockLayout.decoder room d) (room - 1) none
      (inPlace? x.block.1 x.block.2 doc) (x.ofLayer l) := by
  have comes := (x.isolates_block _).of_decoder_get done
  have blank : SettingsLayer.fileLayout.blank = {} := rfl
  rwa [blank, ofLayer_blank, ← blockField, blockField_name] at comes

theorem comes_key (done : x.blockLayout.decoder room d = .ok l) :
    Comes x.decoder.optional (room - 1) none (inPlace? x.key.1 x.key.2 d) (x.ofLayer l) := by
  have comes := (x.isolates_key _).of_decoder_get done
  have blank : x.blockLayout.blank = {} := by cases x <;> rfl
  rwa [blank, ofLayer_blank, ← keyField, keyField_name] at comes

theorem value?_of_optional {o : Option x.Carrier} (done : x.decoder.optional room d = .ok o) :
    o = x.value? d ∧ (o.isSome ↔ d ≠ .null) := by
  unfold Decoder.optional at done
  split at done
  next =>
    cases done
    exact ⟨by cases x <;> rfl, by simp⟩
  next ne =>
    obtain ⟨a, value, rfl⟩ := map_eq_ok_iff.1 done
    exact ⟨(value?_of_decoder value).symm, iff_of_true rfl ne⟩

theorem comes_inDoc (done : SettingsLayer.decoder room doc = .ok l) :
    Comes x.decoder.optional (room - 1 - 1) none (x.inDoc? doc) (x.ofLayer l) := by
  have outer := comes_block (x := x) done
  unfold inDoc?
  cases block : inPlace? x.block.1 x.block.2 doc with
  | none =>
    rw [block] at outer
    exact outer
  | some b =>
    rw [block] at outer
    obtain ⟨l', read, same⟩ := map_eq_ok_iff.1 outer
    rw [← same]
    exact comes_key read

/-- A file sets the fields whose keys it has, unless they are `null`. -/
theorem ofLayer_of_decoder (done : SettingsLayer.decoder room doc = .ok l) :
    x.ofLayer l = x.setBy doc ∧
      ((x.ofLayer l).isSome ↔ ∃ d, x.inDoc? doc = some d ∧ d ≠ .null) := by
  have comes := comes_inDoc (x := x) done
  unfold setBy
  cases key : x.inDoc? doc with
  | none =>
    rw [key] at comes
    have unset : x.ofLayer l = none := comes
    simp [unset]
  | some d =>
    rw [key] at comes
    obtain ⟨value, set⟩ := value?_of_optional comes
    exact ⟨value, by simp [set]⟩

end SettingsField

/-! ## Loading -/

/-- The document of a settings file, if there is such a file and it decodes. -/
def settingsDoc? (files : Files) (path : String) : Option Doc :=
  match files path with
  | .text content =>
    (Decoder.text SettingsLayer.decoder content).toOption.map fun _ => (JsonText.read content).doc
  | .missing | .unreadable => none

variable {files : Files} {env : Environment} {path : String} {named : Option String} {doc : Doc}
  {l : SettingsLayer} {s : Settings}

/-- A file is loaded if it has a document to read, and is what that document decodes to. -/
theorem ofFile_cases (files : Files) (path : String) :
    (settingsDoc? files path = none ∧ ∀ l, SettingsLayer.ofFile files path ≠ .ok l) ∨
      ∃ doc l, settingsDoc? files path = some doc ∧ SettingsLayer.ofFile files path = .ok l ∧
        SettingsLayer.decoder maxDepth doc = .ok l := by
  unfold settingsDoc? SettingsLayer.ofFile
  cases files path with
  | missing | unreadable => exact .inl ⟨rfl, nofun⟩
  | text content =>
    cases done : Decoder.text SettingsLayer.decoder content with
    | error e => simp [done, Except.toOption]
    | ok l =>
      refine .inr ⟨(JsonText.read content).doc, l, ?_, ?_, (text_eq_ok_iff.1 done).1⟩
      · simp [done, Except.toOption]
      · simp only [done]

theorem isSome_setBy (found : settingsDoc? files path = some doc) (x : SettingsField) :
    (x.setBy doc).isSome ↔ ∃ d, x.inDoc? doc = some d ∧ d ≠ .null := by
  obtain ⟨none, -⟩ | ⟨doc', l, found', -, decodes⟩ := ofFile_cases files path
  · rw [found] at none
    cases none
  · obtain rfl : doc' = doc := Option.some.inj (found'.symm.trans found)
    obtain ⟨value, set⟩ := SettingsField.ofLayer_of_decoder (x := x) decodes
    rwa [value] at set

theorem exists_explicitLayer_iff : (∃ l, explicitLayer files named = .ok l) ↔
    ∀ path, named = some path → (settingsDoc? files path).isSome := by
  cases named with
  | none => exact iff_of_true ⟨{}, rfl⟩ nofun
  | some path =>
    simp only [explicitLayer, Option.elim_some, Option.some.injEq, forall_eq']
    obtain ⟨none, fails⟩ | ⟨doc, l, some, loads, -⟩ := ofFile_cases files path
    · simp [none, fails]
    · simp [some, loads]

theorem ofLayer_explicitLayer {x : SettingsField} (done : explicitLayer files named = .ok l) :
    x.ofLayer l = (named >>= settingsDoc? files) >>= x.setBy := by
  cases named with
  | none =>
    cases done
    exact x.ofLayer_blank
  | some path =>
    obtain ⟨-, fails⟩ | ⟨doc, l', found, loads, decodes⟩ := ofFile_cases files path
    · exact absurd done (fails l)
    · obtain rfl : l' = l := Except.ok.inj (loads.symm.trans done)
      refine (SettingsField.ofLayer_of_decoder decodes).1.trans ?_
      change x.setBy doc = settingsDoc? files path >>= x.setBy
      rw [found]
      rfl

/-- The global file is one like the named one, if it is there. -/
theorem globalLayer_eq (files : Files) (env : Environment) : globalLayer files env =
    explicitLayer files ((globalSettingsPath? env).filter (files · ≠ .missing)) := by
  unfold globalLayer explicitLayer
  cases globalSettingsPath? env with
  | none => rfl
  | some path => by_cases missing : files path = .missing <;> simp [Option.filter_some, missing]

/-- A file that is not there has no document. -/
theorem bind_settingsDoc?_filter (files : Files) (named : Option String) :
    named.filter (files · ≠ .missing) >>= settingsDoc? files = named >>= settingsDoc? files := by
  cases named with
  | none => rfl
  | some path =>
    by_cases missing : files path = .missing
    · have none : settingsDoc? files path = none := by rw [settingsDoc?, missing]
      simp [Option.filter_some, missing, none]
    · simp [Option.filter_some, missing]

theorem load_eq_ok_iff : Settings.load files env named = .ok s ↔
    ∃ low high, globalLayer files env = .ok low ∧ explicitLayer files named = .ok high ∧
      s = env.layer.onto (high.onto (low.onto {})) := by
  unfold Settings.load
  rw [bind_eq_ok_iff]
  constructor
  · rintro ⟨low, global, rest⟩
    obtain ⟨high, explicit, ⟨⟩⟩ := bind_eq_ok_iff.1 rest
    exact ⟨low, high, global, explicit, rfl⟩
  · rintro ⟨low, high, global, explicit, rfl⟩
    exact ⟨low, global, bind_eq_ok_iff.2 ⟨high, explicit, rfl⟩⟩

/-- Loading fails just if one of the files does not load. -/
theorem exists_load_iff : (∃ s, Settings.load files env named = .ok s) ↔
    (∀ path, globalSettingsPath? env = some path →
      files path = .missing ∨ (settingsDoc? files path).isSome) ∧
    ∀ path, named = some path → (settingsDoc? files path).isSome := by
  have global : (∃ low, globalLayer files env = .ok low) ↔
      ∀ path, globalSettingsPath? env = some path →
        files path = .missing ∨ (settingsDoc? files path).isSome := by
    rw [globalLayer_eq, exists_explicitLayer_iff]
    simp only [Option.filter_eq_some_iff]
    grind
  rw [← global, ← exists_explicitLayer_iff]
  simp only [load_eq_ok_iff]
  constructor
  · rintro ⟨_, low, high, global, explicit, -⟩
    exact ⟨⟨low, global⟩, high, explicit⟩
  · rintro ⟨⟨low, global⟩, high, explicit⟩
    exact ⟨_, low, high, global, explicit, rfl⟩

/-- The layers of what is loaded, from the highest to the lowest. -/
theorem ofSettings_load (x : SettingsField) (loads : Settings.load files env named = .ok s) :
    x.ofSettings s = (x.inEnvironment env <|> ((named >>= settingsDoc? files) >>= x.setBy) <|>
      ((globalSettingsPath? env >>= settingsDoc? files) >>= x.setBy) <|> x.ofSettings {}) := by
  obtain ⟨low, high, global, explicit, rfl⟩ := load_eq_ok_iff.1 loads
  rw [globalLayer_eq] at global
  rw [x.ofSettings_onto, x.ofSettings_onto, x.ofSettings_onto, x.ofLayer_environment,
    ofLayer_explicitLayer explicit, ofLayer_explicitLayer global, bind_settingsDoc?_filter]

/-! ## Command lines -/

/-- The options of a command line. Those behind the command count more. -/
def SharedOptions.given (words : List String) : Except UsageError SharedOptions := do
  let (front, back, _) ← readCommandLine SharedOptions.options true {} words
  return back.orElse front

/-- The settings file that is named by an option or, without one, by the environment. -/
def SharedOptions.configPath? (flags : SharedOptions) (env : Environment) : Option String :=
  flags.config <|> env "TRELLIS_CONFIG"

theorem SharedOptions.orElse_orElse (a b c : SharedOptions) :
    (a.orElse b).orElse c = a.orElse (b.orElse c) := by
  simp only [orElse, orElse_assoc, Bool.or_assoc]

namespace Invocation

variable {words : List String} {i : Invocation}

theorem options_of_read (read : Invocation.read env words = .ok i) :
    ∃ flags, SharedOptions.given words = .ok flags ∧
      i.options = flags.orElse (.ofEnvironment env) := by
  unfold Invocation.read at read
  obtain ⟨⟨front, back, command⟩, both, rest⟩ := bind_eq_ok_iff.1 read
  refine ⟨back.orElse front, bind_eq_ok_iff.2 ⟨_, both, rfl⟩, ?_⟩
  rw [SharedOptions.orElse_orElse]
  dsimp only at rest
  split at rest
  next => cases rest
  next =>
    cases rest
    rfl

theorem exists_settings_iff (i : Invocation) (files : Files) (env : Environment) :
    (∃ s, i.settings files env = .ok s) ↔ ∃ s, Settings.load files env i.options.config = .ok s := by
  unfold settings
  constructor
  · rintro ⟨_, done⟩
    obtain ⟨s, loads, -⟩ := bind_eq_ok_iff.1 done
    exact ⟨s, loads⟩
  · rintro ⟨s, loads⟩
    exact ⟨_, bind_eq_ok_iff.2 ⟨s, loads, rfl⟩⟩

/-- Each field of the settings is what the highest layer that sets it says: the options, the
environment, the named file, the global file or the defaults. Only the files can make loading fail. -/
theorem settings_layered (read : Invocation.read env words = .ok i) (files : Files) :
    ∃ flags, SharedOptions.given words = .ok flags ∧
      ((∃ s, i.settings files env = .ok s) ↔
        (∀ path, globalSettingsPath? env = some path →
          files path = .missing ∨ (settingsDoc? files path).isSome) ∧
        ∀ path, flags.configPath? env = some path → (settingsDoc? files path).isSome) ∧
      (∀ s, i.settings files env = .ok s → ∀ x : SettingsField, x.ofSettings s =
        (x.inOptions flags <|> x.inEnvironment env <|>
          ((flags.configPath? env >>= settingsDoc? files) >>= x.setBy) <|>
          ((globalSettingsPath? env >>= settingsDoc? files) >>= x.setBy) <|> x.ofSettings {})) ∧
      (∀ path doc, settingsDoc? files path = some doc → ∀ x : SettingsField,
        (x.setBy doc).isSome ↔ ∃ d, x.inDoc? doc = some d ∧ d ≠ .null) ∧
      ∀ n : Nat, SettingsField.timeoutSeconds.inEnvironment env = some n ↔
        ∃ text, env "TRELLIS_TIMEOUT_SECS" = some text ∧ Text.WritesUnsigned text.toList n ∧
          n < 2 ^ 64 := by
  obtain ⟨flags, given, options⟩ := options_of_read read
  have named : i.options.config = flags.configPath? env := by
    rw [options]
    rfl
  refine ⟨flags, given, ?_, fun s done x => ?_, fun path doc found x => ?_, fun n => ?_⟩
  · rw [exists_settings_iff, named, exists_load_iff]
  · obtain ⟨loaded, loads, ⟨⟩⟩ := bind_eq_ok_iff.1 done
    rw [named] at loads
    rw [x.ofSettings_onto, ofSettings_load x loads, options, orElse_assoc, x.ofLayer_options,
      ← orElse_assoc]
  · exact isSome_setBy found x
  · exact SettingsField.inEnvironment_timeoutSeconds

/-- The token in the environment counts more than the one in the named file, the timeout there is
none, and what is `null` in the named file comes from the global one. -/
theorem settings_layered_partly :
    let env : Environment := fun name =>
      [("HOME", "/root"), ("TRELLIS_TOKEN", "env"), ("TRELLIS_TIMEOUT_SECS", "5s")].lookup name
    let files : Files := fun path => ([("/root/.config/trellis/settings.json",
        .text "\x7b\"api\": \x7b\"base_url\": \"http://global\", \"request_timeout_secs\": 9\x7d\x7d"),
      ("named.json", .text "\x7b\"api\": \x7b\"base_url\": null, \"token\": \"named\"\x7d\x7d")].lookup
        path).getD FileContent.missing
    ∃ i, Invocation.read env ["--config", "named.json", "list", "--log-json"] = .ok i ∧
      i.settings files env = .ok { api := ⟨"http://global", some "env", 9⟩, log := ⟨true⟩ } := by
  intro env files
  have read : Invocation.read env ["--config", "named.json", "list", "--log-json"] =
      .ok ⟨{ config := some "named.json", token := some "env", logJson := true }, .list⟩ := rfl
  have global : globalSettingsPath? env = some "/root/.config/trellis/settings.json" := by
    decide +kernel
  obtain ⟨flags, given, loads, layers, -⟩ := settings_layered read files
  obtain rfl : { config := some "named.json", logJson := true } = flags := Except.ok.inj given
  obtain ⟨s, done⟩ := loads.2 (by
    constructor
    · rw [global]
      rintro _ ⟨⟩
      exact .inr (by decide +kernel)
    · rintro _ ⟨⟩
      decide +kernel)
  refine ⟨_, read, done.trans (congrArg _ (SettingsField.eq_of_ofSettings fun x => ?_))⟩
  rw [layers s done x]
  cases x <;> decide +kernel

end Invocation

end GardenAdmin
