import GardenAdmin.Proofs.Command.Configure
import GardenAdmin.Proofs.Garden.Pruning

/-!
# What edits change

`Edits.Changes` says where a form differs after an edit, and it leaves no choice: there is one form
that an edit can come to (`Edits.changes_iff`). So edits compose because their changes do
(`Edits.Changes.trans`).

`ConfigureArgs.editInPlace` makes the same edits one after the other on the form in hand. The file is
read first, so a form that should be replaced from a file that cannot be read is still as it was.
-/

namespace GardenAdmin

open Wire

/-- A text of a header row. -/
def TextPlace.isInRow : TextPlace → Bool
  | .headerKey _ | .headerValue _ => true
  | .http _ | .stomp _ | .ssl _ => false

namespace Form

def headerRows (f : Form) : List HeaderRow := f.stomp.elim [] (·.headers)

def ssl? (f : Form) : Option StompSsl := f.stomp.bind (·.ssl)

theorem getElem?_headerRows (f : Form) (row : Nat) :
    f.headerRows[row]? = f.stomp.bind (·.headers[row]?) := by
  unfold headerRows
  cases f.stomp <;> rfl

theorem textAt_headerKey (f : Form) (row : Nat) :
    f.textAt (.headerKey row) = f.headerRows[row]?.bind (·.key) := by
  rw [getElem?_headerRows]
  rfl

theorem textAt_headerValue (f : Form) (row : Nat) :
    f.textAt (.headerValue row) = f.headerRows[row]?.bind (·.value) := by
  rw [getElem?_headerRows]
  rfl

end Form

namespace Edits

variable {a b e : Edits} {f f' f'' : Form}

/-! ## What is changed -/

/-- The text that an option gives for a place. Only the hosts have options. -/
def text? (e : Edits) : TextPlace → Option String
  | .http .host => e.httpHost
  | .stomp .host => e.stompHost
  | _ => none

/-- The port that an option gives for a place. -/
def port? (e : Edits) : PortPlace → Option Int
  | .http => e.httpPort
  | .stomp => e.stompPort

theorem text?_andThen (a b : Edits) (place : TextPlace) :
    (a.andThen b).text? place = (b.text? place).or (a.text? place) := by
  unfold text? andThen
  split <;> simp

theorem port?_andThen (a b : Edits) (place : PortPlace) :
    (a.andThen b).port? place = (b.port? place).or (a.port? place) := by
  cases place <;> simp [port?, andThen]

/-- `f'` is `f` after the edits. -/
structure Changes (e : Edits) (f f' : Form) : Prop where
  type : f'.connectionType = e.connectionType.or f.connectionType
  text : ∀ place, place.isInRow = false → f'.textAt place = (e.text? place).or (f.textAt place)
  port : ∀ place, f'.portAt place = (e.port? place).or (f.portAt place)
  flag : ∀ place, f'.flagAt place = f.flagAt place
  ssl : f'.ssl? = f.ssl?
  rows : f'.headerRows = (if e.clearStompHeaders then [] else f.headerRows) ++ e.stompHeaders
  /-- An entry point is created only for an option of its own. -/
  http : f'.http.isSome ↔ f.http.isSome ∨ e.httpHost.isSome ∨ e.httpPort.isSome
  stomp : f'.stomp.isSome ↔ f.stomp.isSome ∨
    e.stompHost.isSome ∨ e.stompPort.isSome ∨ e.clearStompHeaders ∨ e.stompHeaders ≠ []

namespace Changes

theorem trans (first : a.Changes f f') (second : b.Changes f' f'') :
    (a.andThen b).Changes f f'' where
  type := by
    rw [second.type, first.type, ← Option.or_assoc]
    simp [andThen]
  text place apart := by
    rw [second.text place apart, first.text place apart, ← Option.or_assoc, text?_andThen]
  port place := by
    rw [second.port, first.port, ← Option.or_assoc, port?_andThen]
  flag place := (second.flag place).trans (first.flag place)
  ssl := second.ssl.trans first.ssl
  rows := by
    rw [second.rows, first.rows]
    unfold andThen
    cases a.clearStompHeaders <;> cases b.clearStompHeaders <;> simp
  http := by
    rw [second.http, first.http]
    simp only [andThen, Option.orElse_eq_orElse, Option.orElse_eq_or, Option.isSome_or,
      Bool.or_eq_true]
    grind
  stomp := by
    rw [second.stomp, first.stomp]
    simp only [andThen, Option.orElse_eq_orElse, Option.orElse_eq_or, Option.isSome_or,
      Bool.or_eq_true]
    cases b.clearStompHeaders with
    | false => simp only [Bool.false_eq_true, if_false, ne_eq, List.append_eq_nil_iff]; grind
    | true => simp

theorem unique (h : e.Changes f f') (h' : e.Changes f f'') : f' = f'' := by
  have http : f'.http.isSome = f''.http.isSome := Bool.eq_iff_iff.2 (h.http.trans h'.http.symm)
  have stomp : f'.stomp.isSome = f''.stomp.isSome :=
    Bool.eq_iff_iff.2 (h.stomp.trans h'.stomp.symm)
  have rows : f'.headerRows = f''.headerRows := h.rows.trans h'.rows.symm
  have ssl : f'.ssl? = f''.ssl? := h.ssl.trans h'.ssl.symm
  refine Form.ext_of_places (h.type.trans h'.type.symm) http ?shape (fun place => ?texts)
    (fun place => (h.port place).trans (h'.port place).symm)
    fun place => (h.flag place).trans (h'.flag place).symm
  case shape =>
    unfold Form.headerRows at rows
    unfold Form.ssl? at ssl
    revert stomp rows ssl
    cases f'.stomp <;> cases f''.stomp <;> simp +contextual [Stomp.shape]
  case texts =>
    cases place with
    | http | stomp | ssl => exact (h.text _ rfl).trans (h'.text _ rfl).symm
    | headerKey row => rw [Form.textAt_headerKey, Form.textAt_headerKey, rows]
    | headerValue row => rw [Form.textAt_headerValue, Form.textAt_headerValue, rows]

end Changes

/-! ## What is applied -/

/-- What a block that is edited if an option touches it has at a place. -/
theorem bind_edited {α β : Type} {touched : Bool} {edit : α → α} {blank : α} {get : α → Option β}
    {given : Option β} (edited : ∀ x, get (edit x) = given.or (get x))
    (untouched : touched = false → given = none) (empty : get blank = none) (block : Option α) :
    (if touched then some (edit (block.getD blank)) else block).bind get =
      given.or (block.bind get) := by
  cases touched with
  | false => rw [untouched rfl]; rfl
  | true =>
    cases block with
    | none => exact (edited blank).trans (by rw [empty]; rfl)
    | some x => exact edited x

/-- A part of the block that no option gives stays as it is. -/
theorem bind_unedited {α β : Type} {touched : Bool} {blank : α} (edit : α → α) (get : α → Option β)
    (unedited : ∀ x, get (edit x) = get x) (empty : get blank = none) (block : Option α) :
    (if touched then some (edit (block.getD blank)) else block).bind get = block.bind get := by
  have nothing : ∀ x, get (edit x) = none.or (get x) := unedited
  exact bind_edited nothing (fun _ => rfl) empty block

theorem touchesHttp_iff : e.touchesHttp ↔ e.httpHost.isSome ∨ e.httpPort.isSome := by
  simp [touchesHttp]

theorem touchesStomp_iff : e.touchesStomp ↔ e.stompHost.isSome ∨ e.stompPort.isSome ∨
    e.clearStompHeaders ∨ e.stompHeaders ≠ [] := by
  simp [touchesStomp, or_assoc]

theorem untouched_http (untouched : e.touchesHttp = false) :
    e.httpHost = none ∧ e.httpPort = none := by
  simpa [touchesHttp] using untouched

theorem untouched_stomp (untouched : e.touchesStomp = false) : e.stompHost = none ∧
    e.stompPort = none ∧ e.clearStompHeaders = false ∧ e.stompHeaders = [] := by
  simpa [touchesStomp, and_assoc] using untouched

theorem headerRows_apply (e : Edits) (f : Form) : (e.apply f).headerRows =
    (if e.clearStompHeaders then [] else f.headerRows) ++ e.stompHeaders := by
  unfold Form.headerRows apply
  cases touched : e.touchesStomp with
  | false =>
    obtain ⟨-, -, keeps, none⟩ := untouched_stomp touched
    simp [keeps, none]
  | true =>
    cases f.stomp <;> simp [editStomp]

theorem ssl?_apply (e : Edits) (f : Form) : (e.apply f).ssl? = f.ssl? :=
  bind_unedited e.editStomp Stomp.ssl (fun _ => rfl) rfl f.stomp

theorem changes_apply (e : Edits) (f : Form) : e.Changes f (e.apply f) where
  type := by simp [apply]
  text place apart := by
    cases place with
    | http field =>
      refine bind_edited (fun h => ?_) (fun untouched => ?_) (by cases field <;> rfl) f.http
      · cases field <;> simp [HttpText.of, editHttp, text?]
      · cases field <;> simp [text?, untouched_http untouched]
    | stomp field =>
      refine bind_edited (fun s => ?_) (fun untouched => ?_) (by cases field <;> rfl) f.stomp
      · cases field <;> simp [StompText.of, editStomp, text?]
      · cases field <;> simp [text?, untouched_stomp untouched]
    | ssl field => exact congrArg (·.bind field.of) (ssl?_apply e f)
    | headerKey | headerValue => cases apart
  port place := by
    cases place with
    | http =>
      refine bind_edited (fun h => ?_) (fun untouched => (untouched_http untouched).2) rfl f.http
      simp [editHttp]
    | stomp =>
      refine bind_edited (fun s => ?_) (fun untouched => (untouched_stomp untouched).2.1) rfl
        f.stomp
      simp [editStomp]
  flag place := by
    cases place with
    | httpCaVerify => exact bind_unedited e.editHttp _ (fun _ => rfl) rfl f.http
    | httpSsl => exact bind_unedited e.editHttp _ (fun _ => rfl) rfl f.http
    | stompUseSsl => exact congrArg (·.bind StompSsl.useSsl) (ssl?_apply e f)
  ssl := ssl?_apply e f
  rows := headerRows_apply e f
  http := by
    rw [← touchesHttp_iff]
    unfold apply
    cases e.touchesHttp <;> simp
  stomp := by
    rw [← touchesStomp_iff]
    unfold apply
    cases e.touchesStomp <;> simp

/-- There is one form that has just these changes. -/
theorem changes_iff : e.Changes f f' ↔ e.apply f = f' := by
  constructor
  · exact (changes_apply e f).unique
  · rintro rfl
    exact changes_apply e f

/-- Two edits in a row come to the same as both at one go. -/
theorem apply_andThen (a b : Edits) (f : Form) : b.apply (a.apply f) = (a.andThen b).apply f :=
  (changes_iff.1 ((changes_apply a f).trans (changes_apply b _))).symm

/-! ## In place -/

/-- Edits the HTTP block in hand. -/
def inHttp (edit : HttpParams → HttpParams) : StateM Form Unit :=
  modify fun f => { f with http := f.http.map edit }

def inStomp (edit : StompForm → StompForm) : StateM Form Unit :=
  modify fun f => { f with stomp := f.stomp.map edit }

def typeInPlace (e : Edits) : StateM Form Unit := do
  if e.connectionType.isSome then
    modify fun f => { f with connectionType := e.connectionType }

def httpInPlace (e : Edits) : StateM Form Unit := do
  if e.touchesHttp then
    modify fun f => { f with http := some (f.http.getD {}) }
    if e.httpHost.isSome then
      inHttp fun h => { h with host := e.httpHost }
    if e.httpPort.isSome then
      inHttp fun h => { h with port := e.httpPort }

def stompInPlace (e : Edits) : StateM Form Unit := do
  if e.touchesStomp then
    modify fun f => { f with stomp := some (f.stomp.getD {}) }
    if e.stompHost.isSome then
      inStomp fun s => { s with host := e.stompHost }
    if e.stompPort.isSome then
      inStomp fun s => { s with port := e.stompPort }
    if e.clearStompHeaders then
      inStomp fun s => { s with headers := [] }
    inStomp fun s => { s with headers := s.headers ++ e.stompHeaders }

/-- The edits, one after the other, on the form in hand. -/
def inPlace (e : Edits) : StateM Form Unit := do
  e.typeInPlace
  e.httpInPlace
  e.stompInPlace

theorem run_typeInPlace (e : Edits) (f : Form) :
    e.typeInPlace.run f = ((), { f with connectionType := (e.apply f).connectionType }) := by
  unfold typeInPlace apply
  cases e.connectionType <;> rfl

theorem run_httpInPlace (e : Edits) (f : Form) :
    e.httpInPlace.run f = ((), { f with http := (e.apply f).http }) := by
  unfold httpInPlace apply editHttp
  cases e.touchesHttp with
  | false => rfl
  | true => cases e.httpHost <;> cases e.httpPort <;> rfl

theorem run_stompInPlace (e : Edits) (f : Form) :
    e.stompInPlace.run f = ((), { f with stomp := (e.apply f).stomp }) := by
  unfold stompInPlace apply editStomp
  cases e.touchesStomp with
  | false => rfl
  | true =>
    cases e.stompHost <;> cases e.stompPort <;> cases e.clearStompHeaders <;> rfl

theorem run_inPlace (e : Edits) (f : Form) : e.inPlace.run f = ((), e.apply f) := by
  have next {x y : StateM Form Unit} {f f' : Form} (first : x.run f = ((), f')) :
      (do x; y).run f = y.run f' := by
    rw [StateT.run_bind, first]
    rfl
  rw [inPlace, next (run_typeInPlace e f), next (run_httpInPlace e _), run_stompInPlace]
  rfl

end Edits

theorem readDocument_eq_ok_iff {α : Type} {files : Files} {read : Decoder α} {path : String}
    {x : α} : readDocument files read path = .ok x ↔
      ∃ content, files path = .text content ∧ Decoder.text read content = .ok x := by
  unfold readDocument
  cases files path with
  | missing | unreadable => simp
  | text content => cases decoded : Decoder.text read content <;> simp [decoded]

namespace ConfigureArgs

variable {files : Files} {a : ConfigureArgs} {f f' : Form} {e : CommandError}

/-- The edits on the form in hand, which may be replaced first. -/
def editInPlace (files : Files) (a : ConfigureArgs) : ExceptT CommandError (StateM Form) Unit := do
  if let some path := a.form then
    let replacement ← liftM (readDocument files Form.decoder path)
    set replacement
  liftM a.edits.inPlace

/-- What comes of the edits in place, and the form that is then in hand. -/
def editFrom (files : Files) (a : ConfigureArgs) (f : Form) : Except CommandError Unit × Form :=
  (a.editInPlace files).run.run f

/-- Edits in place come to the edited form, or to an error and the form as it was. -/
theorem editFrom_eq (files : Files) (a : ConfigureArgs) (f : Form) :
    a.editFrom files f = match a.edit files f with
      | .ok f' => (.ok (), f')
      | .error e => (.error e, f) := by
  have edited (f : Form) : (liftM a.edits.inPlace : ExceptT CommandError (StateM Form) Unit).run.run
      f = (.ok (), a.edits.apply f) :=
    congrArg (fun r : Unit × Form => ((.ok r.1 : Except CommandError Unit), r.2))
      (a.edits.run_inPlace f)
  unfold editFrom editInPlace edit
  cases a.form with
  | none => exact edited f
  | some path =>
    simp only [Option.elim_some]
    cases readDocument files Form.decoder path with
    | error e => rfl
    | ok replacement => exact edited replacement

theorem editFrom_of_ok (edited : a.edit files f = .ok f') :
    a.editFrom files f = (.ok (), f') := by
  rw [editFrom_eq, edited]

theorem editFrom_of_error (refused : a.edit files f = .error e) :
    a.editFrom files f = (.error e, f) := by
  rw [editFrom_eq, refused]

theorem edit_of_error {path : String} (file : a.form = some path)
    (unread : readDocument files Form.decoder path = .error e) : a.edit files f = .error e := by
  rw [edit, file, Option.elim_some, unread]
  rfl

theorem edit_of_none (bare : a.form = none) : a.edit files f = .ok (a.edits.apply f) := by
  rw [edit, bare]
  rfl

theorem run_editInPlace_then {a b : ConfigureArgs} (first : a.editFrom files f = (.ok (), f')) :
    (do a.editInPlace files; b.editInPlace files).run.run f = b.editFrom files f' := by
  unfold editFrom at first
  rw [ExceptT.run_bind, StateT.run_bind, first]
  rfl

/-- Without a form file, two commands edit a form in a row as one does that has the edits of both.
With one, the edits change its form and only where an option says so, and if there is no form in the
file the form in hand is left as it was. -/
theorem edits_compose (files : Files) (f : Form) :
    (∀ a b c : ConfigureArgs, a.form = none → b.form = none → c.form = none →
      c.edits = a.edits.andThen b.edits →
      (do a.editInPlace files; b.editInPlace files).run.run f = c.editFrom files f ∧
      a.edit files f >>= b.edit files = c.edit files f) ∧
    (∀ (a : ConfigureArgs) (f₀ : Form),
      a.form.elim (.ok f) (readDocument files Form.decoder) = .ok f₀ →
      ∃ f', a.editFrom files f = (.ok (), f') ∧ a.edit files f = .ok f' ∧
        a.edits.Changes f₀ f') ∧
    (∀ (a : ConfigureArgs) (path : String), a.form = some path →
      (¬∃ content f₀, files path = .text content ∧ Decoder.text Form.decoder content = .ok f₀) →
      ∃ e, a.editFrom files f = (.error e, f) ∧ a.edit files f = .error e) := by
  refine ⟨fun a b c bareA bareB bareC both => ⟨?_, ?_⟩, fun a f₀ start => ?_,
    fun a path file none => ?_⟩
  · rw [run_editInPlace_then (editFrom_of_ok (edit_of_none bareA)),
      editFrom_of_ok (edit_of_none bareB), editFrom_of_ok (edit_of_none bareC), both,
      Edits.apply_andThen]
  · rw [edit_of_none bareA, edit_of_none bareC, both, ← Edits.apply_andThen]
    exact edit_of_none bareB
  · have edited : a.edit files f = .ok (a.edits.apply f₀) := edit_eq_ok_iff.2 ⟨f₀, start, rfl⟩
    exact ⟨_, editFrom_of_ok edited, edited, Edits.changes_apply _ _⟩
  · cases unread : readDocument files Form.decoder path with
    | ok f₀ =>
      obtain ⟨content, found, decoded⟩ := readDocument_eq_ok_iff.1 unread
      exact absurd ⟨content, f₀, found, decoded⟩ none
    | error e =>
      have refused : a.edit files f = .error e := edit_of_error file unread
      exact ⟨e, editFrom_of_error refused, refused⟩

/-- The second command clears the row that the first one appended; a file is the form to edit, and
one that is not there changes nothing. -/
theorem edits_compose_shed :
    let files : Files := fun path =>
      if path = "form.json" then .text "\x7b\"http\": \x7b\"port\": 80\x7d\x7d" else .missing
    let f : Form := { stomp := some { port := some 61613, headers := [{ key := some "old" }] } }
    let a : ConfigureArgs := { name := "shed", edits := {
      httpHost := some "pi", stompHeaders := [⟨some "k", some "v"⟩] } }
    let b : ConfigureArgs := { name := "shed", edits := {
      connectionType := some .stomp, clearStompHeaders := true
      stompHeaders := [⟨some "n", some "w"⟩] } }
    (do a.editInPlace files; b.editInPlace files).run.run f = (.ok (), {
      connectionType := some .stomp, http := some { host := some "pi" }
      stomp := some { port := some 61613, headers := [⟨some "n", some "w"⟩] } }) ∧
    (∃ f', { a with form := some "form.json" }.editFrom files f = (.ok (), f') ∧
      f'.portAt .http = some 80 ∧ f'.headerRows = [⟨some "k", some "v"⟩]) ∧
    ∃ e, { a with form := some "gone.json" }.editFrom files f = (.error e, f) := by
  intro files f a b
  obtain ⟨compose, changes, refuses⟩ := edits_compose files f
  refine ⟨?_, ?_, ?_⟩
  · exact (compose a b { a with edits := a.edits.andThen b.edits } rfl rfl rfl rfl).1.trans
      (editFrom_of_ok (edit_of_none rfl))
  · have start : readDocument files Form.decoder "form.json" =
        .ok { http := some { port := some 80 } } := by decide +kernel
    obtain ⟨f', edited, -, changed⟩ := changes { a with form := some "form.json" } _
      ((Option.elim_some ..).trans start)
    exact ⟨f', edited, changed.port .http, changed.rows⟩
  · obtain ⟨e, refused, -⟩ := refuses { a with form := some "gone.json" } "gone.json" rfl (by
      have missing : files "gone.json" = .missing := by decide
      rintro ⟨content, f₀, found, -⟩
      rw [missing] at found
      cases found)
    exact ⟨e, refused⟩

end ConfigureArgs

end GardenAdmin
