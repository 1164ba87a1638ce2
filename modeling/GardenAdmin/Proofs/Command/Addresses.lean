import GardenAdmin.Proofs.Api.Target
import GardenAdmin.Proofs.Command.Configure

/-!
# Which garden a command addresses

A command for one garden sends its first request to the URL of that garden. `configure` submits
under the name that the fetched record has, so its two requests go to one URL exactly if the server
gave the garden the name it was asked for (`Command.addressed_requests`).
-/

namespace GardenAdmin

namespace Client

variable {α : Type} (c : Client)

theorem deleteGarden_bind (name : String) (next : Except ClientError Unit → Exchange α) :
    (c.deleteGarden name).bind next = (c.call .delete (c.gardenUrl name) none).bind fun response =>
      next (response.map fun _ => ()) :=
  Exchange.bind_bind ..

theorem sync_bind (name : Option String) (next : Except ClientError Unit → Exchange α) :
    (c.sync name).bind next =
      (c.call .patch (name.elim c.gardensUrl c.gardenUrl)
        (some (operation "sync" (.string "")))).bind fun response =>
          next (response.map fun _ => ()) :=
  Exchange.bind_bind ..

theorem isSome_httpTarget?_gardenUrl_eq (name : String) :
    (httpTarget? (c.gardenUrl name)).isSome = (httpTarget? c.gardensUrl).isSome := by
  rw [← gardenUrl_eq_gardensUrl_iff.2 rfl]
  exact c.isSome_httpTarget?_gardenUrl name ""

end Client

namespace Command

/-- The garden that a command is about. -/
def garden? : Command → Option String
  | .show name | .delete name => some name
  | .configure a => some a.name
  | .sync name => name
  | .list | .create _ | .watch _ | .check _ | .sanitize _ => none

/-- What a server with these replies receives. -/
def requests (client : Client) (files : Files) (cmd : Command) (replies : List Response) :
    List Request :=
  ((cmd.execute client files).run (.replying replies)).2

/-- The replies make the command submit the garden it fetched, which has that name. -/
def SubmitsAs (files : Files) (replies : List Response) (name : String) : Command → Prop
  | .configure a => ∃ g r, a.Submits files (firstReply replies) g r ∧ g.name = name
  | _ => False

variable {client : Client} {files : Files} {replies : List Response} {cmd : Command} {n : String}

/-- All commands for one garden but `configure` are a single call. -/
theorem exists_call (client : Client) (files : Files) (replies : List Response)
    (about : cmd.garden? = some n) :
    (∃ a, cmd = .configure a ∧ a.name = n) ∨ (∀ m, ¬cmd.SubmitsAs files replies m) ∧
      ∃ (method : Method) (body : Option Json.Value)
        (conclude : Except ClientError Response → Outcome), cmd.execute client files =
          (client.call method (client.gardenUrl n) body).bind fun response =>
            .done (conclude response) := by
  cases cmd with
  | list | create | watch | check | sanitize => cases about
  | «show» name =>
    cases about
    exact .inr ⟨fun _ => id, .get, none, _, client.getGarden_bind ..⟩
  | delete name =>
    cases about
    exact .inr ⟨fun _ => id, .delete, none, _, client.deleteGarden_bind ..⟩
  | sync name =>
    cases about
    exact .inr ⟨fun _ => id, .patch, _, _, client.sync_bind ..⟩
  | configure a => exact .inl ⟨a, rfl, Option.some.inj about⟩

theorem requests_of_isNone (about : cmd.garden? = some n)
    (astray : (httpTarget? client.gardensUrl).isNone) :
    cmd.requests client files replies = [] := by
  have astray : (httpTarget? (client.gardenUrl n)).isNone := by
    rwa [← Option.not_isSome, client.isSome_httpTarget?_gardenUrl_eq, Option.not_isSome]
  rcases exists_call client files replies about with
    ⟨a, rfl, rfl⟩ | ⟨-, method, body, conclude, call⟩
  · exact ConfigureArgs.requests_of_isNone astray
  · rw [requests, call, Client.call_bind_of_isNone _ _ _ _ astray]
    rfl

/-- The first request goes to the garden of that name, and the second one that `configure` may send
to the garden of the fetched name. -/
theorem mem_urls_iff (about : cmd.garden? = some n)
    (leads : (httpTarget? client.gardensUrl).isSome) {url : String} :
    url ∈ (cmd.requests client files replies).map (·.url) ↔
      url = client.gardenUrl n ∨ ∃ m, cmd.SubmitsAs files replies m ∧ url = client.gardenUrl m := by
  have leads : (httpTarget? (client.gardenUrl n)).isSome :=
    (client.isSome_httpTarget?_gardenUrl_eq n).trans leads
  rcases exists_call client files replies about with
    ⟨a, rfl, rfl⟩ | ⟨never, method, body, conclude, call⟩
  · have urls : (Command.configure a).requests client files replies =
        a.requests client files replies := rfl
    rw [urls, ConfigureArgs.requests_of_isSome leads]
    by_cases submits : ∃ g r, a.Submits files (firstReply replies) g r
    · obtain ⟨g, r, submits⟩ := submits
      rw [a.requests_proceed_of_submits leads submits]
      have renamed (m : String) : (Command.configure a).SubmitsAs files replies m ↔ g.name = m := by
        constructor
        · rintro ⟨g', r', submits', rfl⟩
          exact congrArg Garden.name (Except.ok.inj (submits.decodes.symm.trans submits'.decodes))
        · exact fun e => ⟨g, r, submits, e⟩
      simp [renamed, Client.fetching, Client.submitting, submits.asks.isRevision.name]
    · have stops : ∀ g r, ¬a.Submits files (firstReply replies) g r := by
        simpa only [not_exists] using submits
      have never (m : String) : ¬(Command.configure a).SubmitsAs files replies m := by
        rintro ⟨g, r, submits', -⟩
        exact stops g r submits'
      rw [a.requests_proceed_of_forall_not stops]
      simp [never, Client.fetching]
  · rw [requests, call, Client.requests_call_bind _ _ _ _ leads]
    simp [never, Exchange.run]

theorem forall_url_iff (about : cmd.garden? = some n)
    (leads : (httpTarget? client.gardensUrl).isSome) (P : String → Prop) :
    (∀ r ∈ cmd.requests client files replies, P r.url) ↔
      P (client.gardenUrl n) ∧ ∀ m, cmd.SubmitsAs files replies m → P (client.gardenUrl m) := by
  rw [← List.forall_mem_map (P := P) (f := Request.url)]
  simp only [mem_urls_iff about leads]
  constructor
  · exact fun all => ⟨all _ (.inl rfl), fun m submits => all _ (.inr ⟨m, submits, rfl⟩)⟩
  · rintro ⟨first, second⟩ url (rfl | ⟨m, submits, rfl⟩)
    · exact first
    · exact second m submits

/-- A property that the URL of no other garden has. -/
theorem forall_url_iff_of_iff (about : cmd.garden? = some n)
    (leads : (httpTarget? client.gardensUrl).isSome) {P : String → Prop} {Q : Prop}
    (own : ∀ m, P (client.gardenUrl m) ↔ m = n ∧ Q) :
    (∀ r ∈ cmd.requests client files replies, P r.url) ↔
      Q ∧ ∀ m, cmd.SubmitsAs files replies m → m = n := by
  rw [forall_url_iff about leads P, own n]
  simp only [own, true_and]
  exact and_congr_right fun q => forall₂_congr fun m submits => and_iff_left q

/-- A command for one garden addresses only that garden exactly if the garden has a name and
`configure` submits it under this name. Otherwise a request goes to another garden, or to all of
them if there is no name. What is sent to the address gets to the garden unless its name is `.` or
`..`. -/
theorem addressed_requests (client : Client) (files : Files) (replies : List Response)
    {cmd : Command} {n : String} (about : cmd.garden? = some n) :
    ((httpTarget? client.gardensUrl).isNone → cmd.requests client files replies = []) ∧
    ((httpTarget? client.gardensUrl).isSome →
      ((∀ r ∈ cmd.requests client files replies, client.Addresses n r.url) ↔
        n ≠ "" ∧ ∀ m, cmd.SubmitsAs files replies m → m = n) ∧
      ((∃ r ∈ cmd.requests client files replies, r.url = client.gardensUrl) ↔
        n = "" ∨ cmd.SubmitsAs files replies "") ∧
      ((∀ r ∈ cmd.requests client files replies, r.url = client.gardenUrl n) ↔
        ∀ m, cmd.SubmitsAs files replies m → m = n) ∧
      (client.IsPlain →
        ((∀ r ∈ cmd.requests client files replies, client.Reaches n r.url) ↔
          n ∉ ["", ".", ".."] ∧ ∀ m, cmd.SubmitsAs files replies m → m = n))) := by
  refine ⟨requests_of_isNone about, fun leads => ⟨?addresses, ?collection, ?same, ?reaches⟩⟩
  case addresses =>
    exact forall_url_iff_of_iff about leads fun m => Client.addresses_gardenUrl_iff
  case collection =>
    have none : (∀ r ∈ cmd.requests client files replies, r.url ≠ client.gardensUrl) ↔ _ :=
      forall_url_iff about leads (· ≠ client.gardensUrl)
    simp only [ne_eq, Client.gardenUrl_eq_gardensUrl_iff] at none
    rw [← not_iff_not]
    simp only [not_exists, not_and, not_or]
    exact none.trans (and_congr_right fun _ => ⟨fun all submits => all "" submits rfl,
      fun never m submits e => never (e ▸ submits)⟩)
  case same =>
    rw [forall_url_iff about leads (· = client.gardenUrl n)]
    simp only [Client.gardenUrl_inj, true_and]
  case reaches =>
    exact fun plain => forall_url_iff_of_iff about leads fun m =>
      Client.reaches_gardenUrl_iff plain leads

/-- The request to delete a garden gets to it. -/
theorem addressed_requests_delete :
    (Command.delete "shed/2").garden? = some "shed/2" ∧
    ∀ r ∈ requests ⟨"http://localhost", none⟩ (fun _ => .missing) (.delete "shed/2") [],
      Client.Reaches ⟨"http://localhost", none⟩ "shed/2" r.url := by
  have leads : (httpTarget? (Client.gardensUrl ⟨"http://localhost", none⟩)).isSome := by
    decide +kernel
  have plain : Client.IsPlain ⟨"http://localhost", none⟩ := by decide
  have about : (Command.delete "shed/2").garden? = some "shed/2" := rfl
  have addressed :=
    (addressed_requests ⟨"http://localhost", none⟩ (fun _ => .missing) [] about).2 leads
  exact ⟨about, (addressed.2.2.2 plain).2 ⟨by decide, nofun⟩⟩

/-- The request to sync the garden with the empty name is for all gardens, so is the record of `shed`
if the server leaves out its name, and what is sent to the garden called `.` gets to all gardens. -/
theorem exists_request_to_all_gardens :
    (∃ r ∈ requests ⟨"http://localhost", none⟩ (fun _ => .missing) (.sync (some "")) [],
      r.url = Client.gardensUrl ⟨"http://localhost", none⟩) ∧
    (∃ r ∈ requests ⟨"http://localhost", none⟩ (fun _ => .missing)
        (.configure { name := "shed", edits := { httpHost := some "pi", httpPort := some 80 } })
        [⟨200, "\x7b\"id\": \"1\"\x7d"⟩],
      r.method = .patch ∧ r.url = Client.gardensUrl ⟨"http://localhost", none⟩) ∧
    (∃ r ∈ requests ⟨"http://localhost", none⟩ (fun _ => .missing) (.delete ".") [],
      httpTarget? r.url = httpTarget? (Client.gardensUrl ⟨"http://localhost", none⟩)) := by
  decide +kernel

end Command

end GardenAdmin
