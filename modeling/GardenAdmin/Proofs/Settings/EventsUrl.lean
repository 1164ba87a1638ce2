import GardenAdmin.Proofs.Api.Target
import GardenAdmin.Proofs.Command.Watch
import GardenAdmin.Proofs.Text.Query

/-!
# The address of the event stream

The address begins with the websocket address of the API (`IsWebsocketBase`) and the path of the
events; the token only comes after them, in the query. So it is in nothing that is shown of the address
(`Settings.redactUrl_eventsUrl`). But it stands there as it is, and a server that decodes the query
reads another one if it has characters of a meaning there (`Settings.token_of_eventsUrl`).
-/

namespace GardenAdmin

/-! ## Websocket addresses -/

/-- The schemes that are known, with those of the websockets. -/
def websocketSchemes : List (String × String) := [("http://", "ws://"), ("https://", "wss://")]

/-- `base` is `url` without the slashes at its end and with the scheme of a websocket. -/
def IsWebsocketBase (url base : String) : Prop :=
  ∃ scheme ∈ websocketSchemes, ∃ (rest : String) (slashes : Nat),
    url.toList = (scheme.1 ++ rest).toList ++ List.replicate slashes '/' ∧
    (scheme.1 ++ rest).toList.getLast? ≠ some '/' ∧ base = scheme.2 ++ rest

variable {url base s : String}

theorem http_ne_https (rest rest' : String) : "http://" ++ rest ≠ "https://" ++ rest' := by
  intro same
  have fifth := congrArg (fun s : String => s.toList[4]?) same
  simp only [String.toList_append] at fifth
  cases fifth

theorem websocketBase?_eq_some_iff : websocketBase? url = some base ↔
    ∃ scheme ∈ websocketSchemes, ∃ rest, url = scheme.1 ++ rest ∧ base = scheme.2 ++ rest := by
  simp only [websocketSchemes, List.mem_cons, List.not_mem_nil, or_false, exists_eq_or_imp,
    exists_eq_left]
  unfold websocketBase?
  cases secure : after? "https://" url with
  | some rest =>
    obtain rfl := after?_eq_some_iff.1 secure
    constructor
    · rintro ⟨⟩
      exact .inr ⟨rest, rfl, rfl⟩
    · rintro (⟨rest', same, -⟩ | ⟨rest', same, rfl⟩)
      · exact absurd same.symm (http_ne_https rest' rest)
      · rw [String.append_right_inj] at same
        rw [same]
  | none =>
    rw [Option.map_eq_some_iff]
    constructor
    · rintro ⟨rest, plain, rfl⟩
      exact .inl ⟨rest, after?_eq_some_iff.1 plain, rfl⟩
    · rintro (⟨rest, plain, rfl⟩ | ⟨rest, plain, -⟩)
      · exact ⟨rest, after?_eq_some_iff.2 plain, rfl⟩
      · rw [after?_eq_some_iff.2 plain] at secure
        cases secure

theorem trimSlashes_eq_iff : trimSlashes url = s ↔
    (∃ slashes, url.toList = s.toList ++ List.replicate slashes '/') ∧
      s.toList.getLast? ≠ some '/' := by
  unfold trimSlashes
  constructor
  · rintro rfl
    rw [String.toList_ofList, List.getLast?_reverse]
    refine ⟨⟨(url.toList.reverse.takeWhile (· == '/')).length, ?_⟩, fun last => ?_⟩
    · have all : ∀ c ∈ url.toList.reverse.takeWhile (· == '/'), c = '/' := fun c mem =>
        beq_iff_eq.1 (List.all_eq_true.1 List.all_takeWhile c mem)
      rw [← List.reverse_replicate, ← List.eq_replicate_of_mem all, ← List.reverse_append,
        List.takeWhile_append_dropWhile, List.reverse_reverse]
    · have other := List.head?_dropWhile_not (· == '/') url.toList.reverse
      rw [last] at other
      cases other
  · rintro ⟨⟨slashes, parts⟩, last⟩
    have all : ∀ c ∈ List.replicate slashes '/', (c == '/') = true := fun c mem =>
      beq_iff_eq.2 (List.eq_of_mem_replicate mem)
    have stays : s.toList.reverse.dropWhile (· == '/') = s.toList.reverse := by
      rw [← List.head?_reverse] at last
      cases back : s.toList.reverse with
      | nil => rfl
      | cons c cs =>
        have other : c ≠ '/' := by
          rintro rfl
          rw [back] at last
          exact last rfl
        rw [List.dropWhile_cons_of_neg (by simpa using other)]
    rw [parts, List.reverse_append, List.reverse_replicate, List.dropWhile_append_of_pos all,
      stays, List.reverse_reverse, String.ofList_toList]

theorem isWebsocketBase_iff :
    IsWebsocketBase url base ↔ websocketBase? (trimSlashes url) = some base := by
  rw [websocketBase?_eq_some_iff]
  refine exists_congr fun scheme => and_congr_right fun _ => exists_congr fun rest => ?_
  rw [trimSlashes_eq_iff]
  constructor
  · rintro ⟨slashes, parts, last, ws⟩
    exact ⟨⟨⟨slashes, parts⟩, last⟩, ws⟩
  · rintro ⟨⟨⟨slashes, parts⟩, last⟩, ws⟩
    exact ⟨slashes, parts, last, ws⟩

/-! ## The address and its token -/

/-- The settings with another token, or with none. -/
def Settings.withToken (s : Settings) (token : Option String) : Settings :=
  { s with api := { s.api with token := token } }

/-- The query that shows a token. An empty one is not shown. -/
def tokenQuery (token : Option String) : String :=
  (token.filter (· ≠ "")).elim "" ("?token=" ++ ·)

theorem toList_tokenQuery {token : String} (shown : token ≠ "") :
    (tokenQuery (some token)).toList = '?' :: ("token".toList ++ '=' :: token.toList) := by
  have kept : (some token).filter (· ≠ "") = some token :=
    Option.filter_some_pos (decide_eq_true shown)
  rw [tokenQuery, kept, Option.elim_some, String.toList_append]
  rfl

namespace Settings

variable (s : Settings) {base : String}

theorem eventsUrl_of_isWebsocketBase (known : IsWebsocketBase s.api.baseUrl base)
    (token : Option String) :
    (s.withToken token).eventsUrl = .ok (base ++ s.events.path ++ tokenQuery token) := by
  have found : websocketBase? (trimSlashes (s.withToken token).api.baseUrl) = some base :=
    isWebsocketBase_iff.1 known
  rw [eventsUrl, found]
  rfl

theorem isPlain_of_isWebsocketBase {url : String} (known : IsWebsocketBase url base)
    (plain : IsPlain url.toList) : IsPlain base.toList := by
  obtain ⟨scheme, known, rest, slashes, parts, -, rfl⟩ := known
  have inScheme : IsPlain scheme.2.toList := by
    simp only [websocketSchemes, List.mem_cons, List.not_mem_nil, or_false] at known
    rcases known with rfl | rfl <;> decide
  intro c mem
  rw [String.toList_append] at mem
  rcases List.mem_append.1 mem with mem | mem
  · exact inScheme c mem
  · refine plain c ?_
    rw [parts, String.toList_append]
    exact List.mem_append_left _ (List.mem_append_right _ mem)

/-- A server reads the token up to the first `&` or `#` and decodes what is there. So it reads the token
that was set exactly if that has neither, and no `%` with two digits. -/
theorem token_of_eventsUrl {token : String} (known : IsWebsocketBase s.api.baseUrl base)
    (plain : IsPlain s.api.baseUrl.toList) (plainPath : IsPlain s.events.path.toList)
    (given : s.api.token = some token) (shown : token ≠ "") :
    ∃ url, s.eventsUrl = .ok url ∧
      Text.parameter? "token" url =
        some (Text.percentDecode (token.toList.takeWhile fun c => c ≠ '&' ∧ c ≠ '#')) ∧
      (Text.parameter? "token" url = some (Text.utf8 token) ↔
        (∀ c ∈ token.toList, c ≠ '&' ∧ c ≠ '#') ∧ ¬Text.HasEscape token.toList) := by
  have found : s.eventsUrl = .ok (base ++ s.events.path ++ tokenQuery s.api.token) :=
    s.eventsUrl_of_isWebsocketBase known s.api.token
  have noQuery : '?' ∉ (base ++ s.events.path).toList := by
    rw [String.toList_append]
    intro mem
    rcases List.mem_append.1 mem with mem | mem
    · exact (isPlain_of_isWebsocketBase known plain _ mem).1 rfl
    · exact (plainPath _ mem).1 rfl
  have chars : base ++ s.events.path ++ tokenQuery (some token) = .ofList
      ((base ++ s.events.path).toList ++ '?' :: ("token".toList ++ '=' :: token.toList)) := by
    rw [← toList_tokenQuery shown, ← String.toList_append, String.ofList_toList]
  have named : ∀ c ∈ "token".toList, c ≠ '#' ∧ c ≠ '&' ∧ c ≠ '=' := by simp
  have read := Text.parameter?_append noQuery named token.toList
  rw [← chars] at read
  rw [given] at found
  refine ⟨_, found, read, ?_⟩
  rw [read, Option.some.injEq, Text.utf8, Text.percentDecode_takeWhile_eq_iff]
  simp only [decide_eq_true_eq]

/-- A `%` without digits does no harm. -/
theorem token_of_eventsUrl_percent :
    let s : Settings := { api := { token := some "100%-+/?=" } }
    IsWebsocketBase s.api.baseUrl "ws://localhost:2337" ∧
    IsPlain s.api.baseUrl.toList ∧ IsPlain s.events.path.toList ∧
    ∃ url, s.eventsUrl = .ok url ∧ Text.parameter? "token" url = some (Text.utf8 "100%-+/?=") := by
  intro s
  have known : IsWebsocketBase s.api.baseUrl "ws://localhost:2337" :=
    isWebsocketBase_iff.2 (by decide +kernel)
  have plain : IsPlain s.api.baseUrl.toList := by decide
  have plainPath : IsPlain s.events.path.toList := by decide
  obtain ⟨url, found, read, -⟩ := s.token_of_eventsUrl known plain plainPath rfl (by decide)
  exact ⟨known, plain, plainPath, url, found, read.trans (by decide +kernel)⟩

/-- A token that ends at its `&` or `#`, and one that is decoded to another. -/
theorem exists_token_read_differently :
    let read (token : String) : Except SettingsError (Option (List UInt8)) :=
      ({ api := { token := some token } } : Settings).eventsUrl.map (Text.parameter? "token")
    IsWebsocketBase ({} : Settings).api.baseUrl "ws://localhost:2337" ∧
    IsPlain ({} : Settings).api.baseUrl.toList ∧ IsPlain ({} : Settings).events.path.toList ∧
    read "a&b" = .ok (some (Text.utf8 "a")) ∧ Text.utf8 "a" ≠ Text.utf8 "a&b" ∧
    read "a#b" = .ok (some (Text.utf8 "a")) ∧ Text.utf8 "a" ≠ Text.utf8 "a#b" ∧
    read "%41" = .ok (some (Text.utf8 "A")) ∧ Text.utf8 "A" ≠ Text.utf8 "%41" := by
  refine ⟨isWebsocketBase_iff.2 (by decide +kernel), by decide, by decide, ?_⟩
  decide +kernel

end Settings

end GardenAdmin
