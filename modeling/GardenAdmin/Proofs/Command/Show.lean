import GardenAdmin.Command.Run
import GardenAdmin.Proofs.Command.Configure
import GardenAdmin.Proofs.Garden.RoundTrip

/-!
# What `show` keeps to itself

The details of a garden are the same whatever its secrets are: `Garden.masked` and `Form.masked`
take them out, and what is printed is already determined by what is left (`Report.detail_masked`).
Masking a record also masks the form it is shown with, as long as it leaves a secret that is not
empty in its place (`Garden.toForm_masked`).
-/

namespace GardenAdmin

/-! ## Masks -/

/-- What is left of the secrets: of a password, and of the text of a key or certificate. -/
structure Mask where
  password : Option String → Option String
  material : Option String → Option String

namespace Mask

/-- Of a password it is left that there is one, of keys and certificates nothing. -/
def presence : Mask := ⟨(·.map fun _ => "*"), fun _ => none⟩

/-- Of any secret it is left that there is one, and whether it is empty. -/
def content : Mask :=
  let hide : Option String → Option String := (·.map fun s => if s = "" then "" else "*")
  ⟨hide, hide⟩

/-- There is a password left exactly where there was one. -/
def KeepsPassword (m : Mask) : Prop := ∀ s, (m.password s).isSome = s.isSome

theorem keepsPassword_presence : presence.KeepsPassword := fun _ => Option.isSome_map

theorem keepsPassword_content : content.KeepsPassword := fun _ => Option.isSome_map

/-- Dropping the empty texts before or after makes no difference. -/
theorem pruneText_content (s : Option String) :
    pruneText (content.material s) = content.material (pruneText s) := by
  cases s with
  | none => rfl
  | some t =>
    by_cases empty : t = ""
    · rw [empty]
      rfl
    · have hidden : content.material (some t) = some "*" := by
        simp only [content, Option.map_some, if_neg empty]
      rw [pruneText_some empty, hidden]
      rfl

end Mask

variable (m : Mask)

def HttpParams.masked (h : HttpParams) : HttpParams :=
  { h with clientKey := m.material h.clientKey }

def StompSsl.masked (s : StompSsl) : StompSsl :=
  { s with
    caCert := m.material s.caCert
    clientCert := m.material s.clientCert
    clientKey := m.material s.clientKey }

def Stomp.masked {η : Type} (s : Stomp η) : Stomp η :=
  { s with password := m.password s.password, ssl := s.ssl.map (·.masked m) }

/-- A form with its secrets masked, and all the rest of it. -/
def Form.masked (f : Form) : Form :=
  { f with http := f.http.map (·.masked m), stomp := f.stomp.map (·.masked m) }

/-- A record with its secrets masked, and all the rest of it. -/
def Garden.masked (g : Garden) : Garden :=
  { g with connectionParams := g.connectionParams.map fun p =>
      ⟨p.http.map (·.masked m), p.stomp.map (·.masked m)⟩ }

/-! ## What is printed -/

namespace Report

variable {m}

theorem httpLines_masked (h : HttpParams) : httpLines (h.masked m) = httpLines h := rfl

theorem stompLines_masked (keeps : m.KeepsPassword) (s : StompForm) :
    stompLines (s.masked m) = stompLines s := by
  have ssl : (s.masked m).ssl.toList.map (fun ssl => "    SSL:        " ++ yesNo ssl.useSsl) =
      s.ssl.toList.map fun ssl => "    SSL:        " ++ yesNo ssl.useSsl := by
    unfold Stomp.masked
    cases s.ssl <;> rfl
  have password : (s.masked m).password.isSome = s.password.isSome := keeps s.password
  unfold stompLines
  rw [ssl, password]
  rfl

/-- The secrets of neither the record nor the form are printed. -/
theorem detail_masked (keeps : m.KeepsPassword) (g : Garden) (f : Form) :
    detail (g.masked m) (f.masked m) = detail g f := by
  have http : (f.masked m).http.elim [] httpLines = f.http.elim [] httpLines := by
    unfold Form.masked
    cases f.http with
    | none => rfl
    | some h => exact httpLines_masked h
  have stomp : (f.masked m).stomp.elim [] stompLines = f.stomp.elim [] stompLines := by
    unfold Form.masked
    cases f.stomp with
    | none => rfl
    | some s => exact stompLines_masked keeps s
  unfold detail detailLines
  rw [http, stomp]
  rfl

end Report

/-! ## The form of a masked record -/

section

open Mask

theorem HttpParams.prune_masked (h : HttpParams) :
    (h.masked content).prune = h.prune.masked content := by
  unfold masked prune
  rw [pruneText_content]

theorem StompSsl.prune_masked (s : StompSsl) :
    (s.masked content).prune = s.prune.masked content := by
  unfold masked prune
  simp only [pruneText_content]

theorem StompParams.toForm_masked (s : StompParams) :
    StompParams.toForm (s.masked content) = s.toForm.masked content := by
  have password :
      pruneText (content.password s.password) = content.password (pruneText s.password) :=
    pruneText_content s.password
  unfold StompParams.toForm Stomp.masked
  simp only [password, Option.map_map, Function.comp_def, StompSsl.prune_masked]

theorem Garden.toForm_masked (g : Garden) :
    (g.masked content).toForm = g.toForm.masked content := by
  unfold Garden.masked Garden.toForm Form.masked
  cases g.connectionParams with
  | none => rfl
  | some p =>
    simp only [Option.map_some, Option.bind_some, Option.map_map, Function.comp_def,
      HttpParams.prune_masked, StompParams.toForm_masked]

end

/-! ## The command -/

/-- What `show` prints and sends depends on what its one request is answered. -/
theorem Command.run_show_congr {answer answer' : Response}
    (same : Outcome.ofExcept .client (Client.decoded Garden.decoder answer.sorted)
        (fun g => Report.detail g g.toForm) =
      Outcome.ofExcept .client (Client.decoded Garden.decoder answer'.sorted)
        (fun g => Report.detail g g.toForm))
    (s : Surroundings) (name : String) (rest : List Response) :
    ((Command.show name).run s).run (.replying (answer :: rest)) =
      ((Command.show name).run s).run (.replying (answer' :: rest)) := by
  unfold Command.run
  cases Client.ofSettings s.settings.api with
  | error e => rfl
  | ok client =>
    have call : (Command.show name).execute client s.files =
        (client.call .get (client.gardenUrl name) none).bind fun response =>
          .done (.ofExcept .client (Client.decoded Garden.decoder response)
            fun g => Report.detail g g.toForm) :=
      client.getGarden_bind name _
    simp only [call]
    by_cases leads : (httpTarget? (client.gardenUrl name)).isSome
    · rw [Client.run_call_bind _ _ _ _ leads, Client.run_call_bind _ _ _ _ leads]
      simp only [firstReply, List.headD_cons, same, Exchange.run]
    · have astray : (httpTarget? (client.gardenUrl name)).isNone := by
        rwa [Option.not_isSome_iff_eq_none, ← Option.isNone_iff_eq_none] at leads
      rw [Client.call_bind_of_isNone _ _ _ _ astray]
      rfl

/-- Two gardens with their forms that differ in no more than the text of a password and in keys and
certificates are printed alike. So are two records that differ in no more than secrets that are not
empty, with the forms they have, and `show` does the same for a server that answers with either. -/
theorem secrets_not_shown :
    (∀ {g g' : Garden} {f f' : Form}, g.masked .presence = g'.masked .presence →
      f.masked .presence = f'.masked .presence → Report.detail g f = Report.detail g' f') ∧
    (∀ {g g' : Garden}, g.masked .content = g'.masked .content →
      Report.detail g g.toForm = Report.detail g' g'.toForm ∧
      ∀ {answer answer' : Response}, answer.isSuccess → answer'.isSuccess →
        Wire.Decoder.text Garden.decoder answer.body = .ok g →
        Wire.Decoder.text Garden.decoder answer'.body = .ok g' →
        ∀ (s : Surroundings) (name : String) (rest : List Response),
          ((Command.show name).run s).run (.replying (answer :: rest)) =
            ((Command.show name).run s).run (.replying (answer' :: rest))) := by
  refine ⟨?given, fun {g g'} alike => ?fetched⟩
  case given =>
    intro g g' f f' alike alikeForm
    rw [← Report.detail_masked Mask.keepsPassword_presence g f, alike, alikeForm,
      Report.detail_masked Mask.keepsPassword_presence]
  case fetched =>
    have detail : Report.detail g g.toForm = Report.detail g' g'.toForm := by
      rw [← Report.detail_masked Mask.keepsPassword_content g, ← Garden.toForm_masked, alike,
        Garden.toForm_masked, Report.detail_masked Mask.keepsPassword_content]
    refine ⟨detail, fun success success' body body' s name rest => ?_⟩
    have read := Client.decoded_sorted_eq_ok_iff.2 ⟨success, body⟩
    have read' := Client.decoded_sorted_eq_ok_iff.2 ⟨success', body'⟩
    refine Command.run_show_congr ?_ s name rest
    rw [read, read']
    exact congrArg Outcome.printed detail

/-- One form has a key and the other none, and the server answers with one password or another. -/
theorem secrets_not_shown_shed :
    let form (password : String) (key : Option String) : Form := {
      http := some { host := some "pi", port := some 80, clientKey := key }
      stomp := some {
        password := some password
        ssl := some { useSsl := some true, caCert := key } } }
    let garden (password : String) : Garden := {
      id := some "1", name := "shed"
      connectionParams := some { stomp := some { password := some password } } }
    let answer (password : String) : Response := ⟨200,
      "\x7b\"id\": \"1\", \"name\": \"shed\", " ++
        "\"connection_params\": \x7b\"stomp\": \x7b\"password\": \"" ++ password ++
        "\"\x7d\x7d\x7d"⟩
    let shown (password : String) :=
      ((Command.show "shed").run ⟨{}, fun _ => .missing, []⟩).run (.replying [answer password])
    Report.detail (garden "hunter2") (form "hunter2" (some "key")) =
      Report.detail (garden "") (form "" none) ∧
    Report.detail (garden "hunter2") (garden "hunter2").toForm =
      Report.detail (garden "swordfish") (garden "swordfish").toForm ∧
    shown "hunter2" = shown "swordfish" := by
  intro form garden answer shown
  have alike : (garden "hunter2").masked .content = (garden "swordfish").masked .content := by
    decide +kernel
  obtain ⟨detail, shownAlike⟩ := secrets_not_shown.2 alike
  refine ⟨secrets_not_shown.1 rfl rfl, detail, ?_⟩
  exact @shownAlike (answer "hunter2") (answer "swordfish") (by decide) (by decide)
    (by decide +kernel) (by decide +kernel) _ _ _

end GardenAdmin
