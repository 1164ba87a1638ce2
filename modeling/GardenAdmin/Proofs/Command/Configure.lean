import Mathlib.Control.Monad.Basic
import GardenAdmin.Command.Remote
import GardenAdmin.Proofs.Api.Client
import GardenAdmin.Proofs.Panel.Preparation

/-!
# What `configure` sends

A run of `configure` asks for the garden and then submits a record or sends nothing more. It
submits exactly if every step between the two requests succeeds (`ConfigureArgs.Submits`), and what
it submits is the fetched garden with a checked connection (`Garden.IsRevision`).
-/

namespace GardenAdmin

open Json Wire

namespace Client

variable {α β : Type}

/-- The request for the garden of that name. -/
def fetching (c : Client) (name : String) : Request :=
  ⟨.get, c.gardenUrl name, c.authorization, none⟩

/-- The request with the record in its one operation. -/
def submitting (c : Client) (r : Garden) : Request :=
  ⟨.patch, c.gardenUrl r.name, c.authorization, some (operation "config" r.toValue).compact⟩

theorem decoded_sorted_eq_ok_iff {read : Decoder β} {reply : Response} {b : β} :
    decoded read reply.sorted = .ok b ↔ reply.isSuccess ∧ Decoder.text read reply.body = .ok b := by
  unfold Response.sorted
  cases reply.isSuccess with
  | false => exact ⟨nofun, fun h => Bool.noConfusion h.1⟩
  | true =>
    simp only [if_true, decoded, true_and, Bind.bind, Except.bind]
    cases Decoder.text read reply.body with
    | error cause =>
      constructor <;> intro e <;> cases e
    | ok b' =>
      constructor <;> intro e <;> cases e <;> rfl

theorem getGarden_bind (c : Client) (name : String)
    (next : Except ClientError Garden → Exchange α) :
    (c.getGarden name).bind next = (c.call .get (c.gardenUrl name) none).bind fun response =>
      next (decoded Garden.decoder response) :=
  Exchange.bind_bind ..

theorem updateConfig_bind (c : Client) (r : Garden)
    (next : Except ClientError Garden → Exchange α) :
    (c.updateConfig r).bind next =
      (c.call .patch (c.gardenUrl r.name) (some (operation "config" r.toValue))).bind
        fun response => next (decoded Garden.decoder response) :=
  Exchange.bind_bind ..

end Client

namespace ConfigureArgs

variable {files : Files} {a : ConfigureArgs} {g r : Garden}

/-- For the fetched garden `g`, the record `r` is to be submitted. -/
structure Asks (files : Files) (a : ConfigureArgs) (g r : Garden) : Prop where
  isRemote : g.isLocal = false
  /-- There is a form to edit, read from the file if one is named, and edited it makes the record.
  -/
  prepares : ∃ form, a.form.elim (.ok g.toForm) (readDocument files Form.decoder) = .ok form ∧
    ({ Panel.load g with form := a.edits.apply form }).prepare.2 = some r
  isWet : a.dryRun = false

/-- By the reply to the first request, the garden is `g`, and for it `r` is to be submitted. -/
structure Submits (files : Files) (a : ConfigureArgs) (reply : Response) (g r : Garden) : Prop where
  success : reply.isSuccess
  decodes : Decoder.text Garden.decoder reply.body = .ok g
  asks : a.Asks files g r

theorem edit_eq_ok_iff {f f' : Form} : a.edit files f = .ok f' ↔
    ∃ form, a.form.elim (.ok f) (readDocument files Form.decoder) = .ok form ∧
      a.edits.apply form = f' := by
  unfold edit
  cases a.form.elim (.ok f) (readDocument files Form.decoder) with
  | error e => exact ⟨nofun, fun ⟨_, e', _⟩ => nomatch e'⟩
  | ok form =>
    constructor
    · intro e
      exact ⟨form, rfl, Except.ok.inj e⟩
    · rintro ⟨_, e, rfl⟩
      cases e
      rfl

theorem Asks.isRevision (h : a.Asks files g r) : g.IsRevision r := by
  obtain ⟨form, -, prepared⟩ := h.prepares
  exact Panel.isRevision_of_submission (Panel.prepare_eq_some_iff.1 (Prod.ext rfl prepared)).1

theorem editPanel_of_remote (files : Files) (a : ConfigureArgs) (remote : g.isLocal = false) :
    a.editPanel files (Panel.load g) =
      (a.edit files g.toForm).map fun f => { Panel.load g with form := f } :=
  if_neg (Bool.eq_false_iff.1 remote)

theorem plan_of_editPanel {p : Panel} (edited : a.editPanel files (Panel.load g) = .ok p) :
    (∃ panel, a.plan files g = .submit panel r) ↔ p.prepare.2 = some r ∧ a.dryRun = false := by
  simp only [plan, edited]
  generalize p.prepare = prepared
  obtain ⟨panel, _ | record⟩ := prepared
  · simp
  · cases a.dryRun <;> simp

/-- A local garden is never prepared, so it does not matter that its form is left unedited. -/
theorem plan_eq_submit_iff : (∃ panel, a.plan files g = .submit panel r) ↔ a.Asks files g r := by
  cases isLocal : g.isLocal with
  | true =>
    have edited : a.editPanel files (Panel.load g) = .ok (Panel.load g) := if_pos isLocal
    have unprepared : (Panel.load g).prepare.2 = none :=
      congrArg Prod.snd (Panel.prepare_of_isLocal isLocal)
    rw [plan_of_editPanel edited, unprepared]
    exact ⟨fun h => (nomatch h.1), fun h => Bool.noConfusion (isLocal.symm.trans h.isRemote)⟩
  | false =>
    have edits := editPanel_of_remote files a isLocal
    cases edited : a.edit files g.toForm with
    | error e =>
      rw [edited] at edits
      constructor
      · rintro ⟨panel, e'⟩
        rw [plan, edits] at e'
        cases e'
      · intro h
        obtain ⟨form, found, -⟩ := h.prepares
        rw [edit_eq_ok_iff.2 ⟨form, found, rfl⟩] at edited
        cases edited
    | ok f =>
      rw [edited] at edits
      rw [plan_of_editPanel edits]
      obtain ⟨form, found, rfl⟩ := edit_eq_ok_iff.1 edited
      constructor
      · rintro ⟨prepared, isWet⟩
        exact ⟨isLocal, ⟨form, found, prepared⟩, isWet⟩
      · intro h
        obtain ⟨form', found', prepared⟩ := h.prepares
        cases found.symm.trans found'
        exact ⟨prepared, h.isWet⟩

/-! ## The requests of a run -/

section

variable {client : Client} {replies : List Response}

/-- What a server with these replies receives. -/
def requests (client : Client) (files : Files) (a : ConfigureArgs) (replies : List Response) :
    List Request :=
  ((configure client files a).run (.replying replies)).2

/-- What is done about an answer to the first request. -/
def proceed (client : Client) (files : Files) (a : ConfigureArgs) :
    Except ClientError Response → Exchange Outcome := fun response =>
  match Client.decoded Garden.decoder response with
  | .error e => .done (.failed (.client e) "")
  | .ok g =>
    match a.plan files g with
    | .stop o => .done o
    | .submit panel record =>
      (client.updateConfig record).bind fun stored => .done (a.conclude panel stored)

theorem configure_eq (client : Client) (files : Files) (a : ConfigureArgs) :
    configure client files a =
      (client.call .get (client.gardenUrl a.name) none).bind (a.proceed client files) :=
  client.getGarden_bind ..

theorem requests_of_isNone (astray : (httpTarget? (client.gardenUrl a.name)).isNone) :
    a.requests client files replies = [] := by
  rw [requests, configure_eq, Client.call_bind_of_isNone _ _ _ _ astray]
  rfl

theorem requests_of_isSome (leads : (httpTarget? (client.gardenUrl a.name)).isSome) :
    a.requests client files replies = client.fetching a.name ::
      ((a.proceed client files (firstReply replies).sorted).run (.replying replies.tail)).2 := by
  rw [requests, configure_eq, Client.requests_call_bind _ _ _ _ leads]
  rfl

theorem requests_proceed_of_submits (leads : (httpTarget? (client.gardenUrl a.name)).isSome)
    {reply : Response} (submits : a.Submits files reply g r) :
    ((a.proceed client files reply.sorted).run (.replying replies)).2 = [client.submitting r] := by
  have fetched := Client.decoded_sorted_eq_ok_iff.2 ⟨submits.success, submits.decodes⟩
  obtain ⟨panel, plan⟩ := plan_eq_submit_iff.2 submits.asks
  have leads' := (client.isSome_httpTarget?_gardenUrl r.name a.name).trans leads
  unfold proceed
  simp only [fetched, plan]
  rw [Client.updateConfig_bind, Client.requests_call_bind _ _ _ _ leads']
  rfl

theorem requests_proceed_of_forall_not {reply : Response}
    (stops : ∀ g r, ¬a.Submits files reply g r) :
    ((a.proceed client files reply.sorted).run (.replying replies)).2 = [] := by
  unfold proceed
  cases fetched : Client.decoded Garden.decoder reply.sorted with
  | error e => rfl
  | ok g =>
    cases plan : a.plan files g with
    | stop o =>
      simp only [plan]
      rfl
    | submit panel r =>
      obtain ⟨success, decodes⟩ := Client.decoded_sorted_eq_ok_iff.1 fetched
      exact absurd ⟨success, decodes, plan_eq_submit_iff.1 ⟨panel, plan⟩⟩ (stops g r)

end

end ConfigureArgs

end GardenAdmin
