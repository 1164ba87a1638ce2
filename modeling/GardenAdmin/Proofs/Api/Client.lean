import GardenAdmin.Api.Client

/-!
# What a client sends

One call sends one request (`Client.run_call_bind`), or none if the URL leads to no server.
Whether it leads to one is decided by its beginning (`isSome_httpTarget?_append`), so for one
client it does not depend on the garden that a request is about
(`Client.isSome_httpTarget?_gardenUrl`).
-/

namespace GardenAdmin

/-- What ends the authority of a URL. -/
def endsAuthority (c : Char) : Bool := c == '/' || c == '?' || c == '#'

theorem isSome_pathAndQuery? (schemes : List String) (url : String) :
    (pathAndQuery? schemes url).isSome =
      (afterScheme? schemes url).any fun rest => (breakAt endsAuthority rest).1 ≠ "" := by
  unfold pathAndQuery? endsAuthority
  cases afterScheme? schemes url with
  | none => rfl
  | some rest =>
    simp only [Option.bind_eq_bind, Option.bind_some, Option.any_some]
    split <;> simp_all

section

variable {front : String} {start : List Char}

/-- What follows `front` is what it is put before. -/
theorem after?_eq_some_iff {s rest : String} : after? front s = some rest ↔ s = front ++ rest := by
  unfold after?
  rw [Option.ite_none_right_eq_some, List.isPrefixOf_iff_prefix, Option.some.injEq]
  constructor
  · rintro ⟨starts, rfl⟩
    rw [← String.toList_inj, String.toList_append, String.toList_ofList, ← String.length_toList]
    exact (List.prefix_iff_eq_append.1 starts).symm
  · rintro rfl
    rw [String.toList_append]
    refine ⟨List.prefix_append .., ?_⟩
    rw [← String.length_toList, List.drop_left, String.ofList_toList]

theorem isPrefixOf_append (short : front.length < start.length) (rest : List Char) :
    front.toList.isPrefixOf (start ++ rest) = front.toList.isPrefixOf start := by
  have shorter : front.toList.length ≤ start.length := by
    rw [String.length_toList]
    omega
  rw [Bool.eq_iff_iff, List.isPrefixOf_iff_prefix, List.isPrefixOf_iff_prefix]
  exact ⟨fun h => List.prefix_of_prefix_length_le h (start.prefix_append rest) shorter,
    fun h => h.trans (start.prefix_append rest)⟩

theorem after?_append (short : front.length < start.length) (rest : List Char) :
    after? front (.ofList (start ++ rest)) =
      (after? front (.ofList start)).map fun s => .ofList (s.toList ++ rest) := by
  unfold after?
  rw [String.toList_ofList, String.toList_ofList, isPrefixOf_append short]
  split
  · rw [Option.map_some, String.toList_ofList, List.drop_append_of_le_length (by omega)]
  · rfl

/-- There is more to a longer text than its front. -/
theorem ne_nil_of_after? {s : String} (short : front.length < start.length)
    (found : after? front (.ofList start) = some s) : s.toList ≠ [] := by
  have chars := congrArg (fun s : String => s.toList.length) (after?_eq_some_iff.1 found)
  simp only [String.toList_ofList, String.toList_append, List.length_append,
    String.length_toList] at chars
  rw [ne_eq, ← List.length_eq_zero_iff, String.length_toList]
  omega

end

theorem breakAt_append {p : Char → Bool} {s : String} (more : s.toList ≠ []) (rest : List Char) :
    (breakAt p (.ofList (s.toList ++ rest))).1 = "" ↔ (breakAt p s).1 = "" := by
  unfold breakAt
  rw [String.toList_ofList]
  cases chars : s.toList with
  | nil => exact absurd chars more
  | cons c cs =>
    rw [List.cons_append, List.takeWhile_cons, List.takeWhile_cons]
    cases p c <;> simp

section

variable {start : List Char} {schemes : List String}

theorem afterScheme?_append (long : ∀ scheme ∈ schemes, (scheme ++ "://").length < start.length)
    (rest : List Char) :
    afterScheme? schemes (.ofList (start ++ rest)) =
      (afterScheme? schemes (.ofList start)).map fun s => .ofList (s.toList ++ rest) := by
  unfold afterScheme?
  induction schemes with
  | nil => rfl
  | cons scheme schemes ih =>
    rw [List.findSome?_cons, List.findSome?_cons, after?_append (long scheme (.head _)),
      ih fun s hs => long s (.tail _ hs)]
    cases after? (scheme ++ "://") (.ofList start) <;> rfl

theorem ne_nil_of_afterScheme? {s : String}
    (long : ∀ scheme ∈ schemes, (scheme ++ "://").length < start.length)
    (found : afterScheme? schemes (.ofList start) = some s) : s.toList ≠ [] := by
  obtain ⟨scheme, known, found⟩ := List.exists_of_findSome?_eq_some found
  exact ne_nil_of_after? (long scheme known) found

theorem isSome_pathAndQuery?_append
    (long : ∀ scheme ∈ schemes, (scheme ++ "://").length < start.length) (rest : List Char) :
    (pathAndQuery? schemes (.ofList (start ++ rest))).isSome =
      (pathAndQuery? schemes (.ofList start)).isSome := by
  rw [isSome_pathAndQuery?, isSome_pathAndQuery?, afterScheme?_append long]
  cases found : afterScheme? schemes (.ofList start) with
  | none => rfl
  | some s =>
    have more := ne_nil_of_afterScheme? long found
    simp only [Option.map_some, Option.any_some, ne_eq, breakAt_append more rest]

theorem length_scheme_lt (long : 8 < start.length) :
    ∀ scheme ∈ ["http", "https"], (scheme ++ "://").length < start.length := by
  intro scheme known
  have : (scheme ++ "://").length ≤ 8 := by
    obtain rfl | known := List.mem_cons.1 known
    · decide
    · cases List.mem_singleton.1 known
      decide
  omega

/-- Beyond the scheme and the first character of the host, a URL may go on as it likes. -/
theorem isSome_httpTarget?_append (long : 8 < start.length) (rest : List Char) :
    (httpTarget? (.ofList (start ++ rest))).isSome = (httpTarget? (.ofList start)).isSome := by
  unfold httpTarget?
  rw [Option.isSome_map, Option.isSome_map, isSome_pathAndQuery?_append (length_scheme_lt long)]

end

namespace Exchange

variable {α β γ : Type}

theorem bind_bind (x : Exchange α) (f : α → Exchange β) (g : β → Exchange γ) :
    (x.bind f).bind g = x.bind fun a => (f a).bind g := by
  induction x with
  | done a => rfl
  | send r next ih => exact congrArg (send r) (funext ih)

end Exchange

/-- What a client is told of a response. -/
def Response.sorted (r : Response) : Except ClientError Response :=
  if r.isSuccess then .ok r else .error (.server (.ofResponse r.status r.body))

/-- The answer to the next request. -/
def firstReply (replies : List Response) : Response := replies.headD ⟨500, ""⟩

theorem Server.reply?_replying (replies : List Response) :
    (replying replies).reply? = some (firstReply replies, .replying replies.tail) := by
  cases replies <;> rfl

namespace Client

section

variable {α : Type} {url : String} (c : Client) (method : Method) (body : Option Json.Value)
  (next : Except ClientError Response → Exchange α)

theorem call_bind_of_isNone (astray : (httpTarget? url).isNone) :
    (c.call method url body).bind next = next (.error .http) := by
  unfold call
  rw [if_pos astray]
  rfl

theorem run_call_bind (leads : (httpTarget? url).isSome) (replies : List Response) :
    ((c.call method url body).bind next).run (.replying replies) =
      (((next (firstReply replies).sorted).run (.replying replies.tail)).1,
        ⟨method, url, c.authorization, body.map (·.compact)⟩ ::
          ((next (firstReply replies).sorted).run (.replying replies.tail)).2) := by
  have leads : ¬(httpTarget? url).isNone := by
    rwa [← Option.not_isSome, Bool.not_eq_true', Bool.not_eq_false]
  unfold call
  rw [if_neg leads]
  simp only [Bind.bind, Exchange.request, Exchange.bind, Exchange.run, Server.reply?_replying]
  unfold Response.sorted
  split <;> rfl

theorem requests_call_bind (leads : (httpTarget? url).isSome) (replies : List Response) :
    (((c.call method url body).bind next).run (.replying replies)).2 =
      ⟨method, url, c.authorization, body.map (·.compact)⟩ ::
        ((next (firstReply replies).sorted).run (.replying replies.tail)).2 := by
  rw [run_call_bind c method body next leads]

end

theorem gardenUrl_eq (c : Client) (name : String) : c.gardenUrl name =
    .ofList ((c.baseUrl ++ "/api/v1/gardens/").toList ++ (Text.encodeSegment name).toList) := by
  rw [gardenUrl, apiUrl, ← String.toList_append, String.ofList_toList]
  simp only [String.append_assoc]
  rfl

/-- The URLs of all gardens lead somewhere or none does. -/
theorem isSome_httpTarget?_gardenUrl (c : Client) (m n : String) :
    (httpTarget? (c.gardenUrl m)).isSome = (httpTarget? (c.gardenUrl n)).isSome := by
  have long : 8 < (c.baseUrl ++ "/api/v1/gardens/").toList.length := by
    rw [String.toList_append, List.length_append]
    have : "/api/v1/gardens/".toList.length = 16 := by decide
    omega
  rw [gardenUrl_eq, gardenUrl_eq, isSome_httpTarget?_append long, isSome_httpTarget?_append long]

end Client

end GardenAdmin
