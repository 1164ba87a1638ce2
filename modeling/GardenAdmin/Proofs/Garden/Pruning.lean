import GardenAdmin.Proofs.Garden.Repair
import GardenAdmin.Proofs.Panel.Resubmission

/-!
# What pruning leaves

The form of a record has a text exactly where the record has one that is not empty, and everything
else of the record's parameters where the record has it (`Garden.toForm_prunes_exactly`).

Places name whatever parameters and forms can hold: forms of one shape that hold the same everywhere
are the same (`Form.ext_of_places`).
-/

namespace GardenAdmin

/-! ## Places -/

/-- The texts of an HTTP block. -/
inductive HttpText where
  | host
  | urlPrefix
  | caCert
  | clientCert
  | clientKey

def HttpText.of : HttpText → HttpParams → Option String
  | host => HttpParams.host
  | urlPrefix => HttpParams.urlPrefix
  | caCert => HttpParams.caCert
  | clientCert => HttpParams.clientCert
  | clientKey => HttpParams.clientKey

/-- The texts of SSL settings. -/
inductive SslText where
  | caCert
  | clientCert
  | clientKey

def SslText.of : SslText → StompSsl → Option String
  | caCert => StompSsl.caCert
  | clientCert => StompSsl.clientCert
  | clientKey => StompSsl.clientKey

/-- The texts of a STOMP block itself. -/
inductive StompText where
  | host
  | sendDestination
  | subscribeDestination
  | username
  | password

def StompText.of {η : Type} : StompText → Stomp η → Option String
  | host => Stomp.host
  | sendDestination => Stomp.sendDestination
  | subscribeDestination => Stomp.subscribeDestination
  | username => Stomp.username
  | password => Stomp.password

/-- Where a text can be. Headers are counted in their order. -/
inductive TextPlace where
  | http (field : HttpText)
  | stomp (field : StompText)
  | ssl (field : SslText)
  | headerKey (row : Nat)
  | headerValue (row : Nat)

/-- Where a port can be. -/
inductive PortPlace where
  | http
  | stomp

/-- Where a switch can be. -/
inductive FlagPlace where
  | httpCaVerify
  | httpSsl
  | stompUseSsl

section

variable {η : Type} (http : Option HttpParams) (stomp : Option (Stomp η))

/-- The text at a place of two blocks, whose headers have the given sides. -/
def TextPlace.read (key value : η → Option String) : TextPlace → Option String
  | .http field => http.bind field.of
  | .stomp field => stomp.bind field.of
  | .ssl field => (stomp.bind (·.ssl)).bind field.of
  | .headerKey row => (stomp.bind (·.headers[row]?)).bind key
  | .headerValue row => (stomp.bind (·.headers[row]?)).bind value

def PortPlace.read : PortPlace → Option Int
  | .http => http.bind (·.port)
  | .stomp => stomp.bind (·.port)

def FlagPlace.read : FlagPlace → Option Bool
  | .httpCaVerify => http.bind (·.caVerify)
  | .httpSsl => http.bind (·.ssl)
  | .stompUseSsl => (stomp.bind (·.ssl)).bind (·.useSsl)

end

namespace ConnectionParams

def textAt (p : ConnectionParams) (place : TextPlace) : Option String :=
  place.read p.http p.stomp (fun h => some h.key) fun h => some h.value

def portAt (p : ConnectionParams) (place : PortPlace) : Option Int := place.read p.http p.stomp

def flagAt (p : ConnectionParams) (place : FlagPlace) : Option Bool := place.read p.http p.stomp

end ConnectionParams

/-- Whether there are SSL settings, and how many headers there are. -/
def Stomp.shape {η : Type} (s : Stomp η) : Bool × Nat := (s.ssl.isSome, s.headers.length)

namespace Form

def textAt (f : Form) (place : TextPlace) : Option String :=
  place.read f.http f.stomp HeaderRow.key HeaderRow.value

def portAt (f : Form) (place : PortPlace) : Option Int := place.read f.http f.stomp

def flagAt (f : Form) (place : FlagPlace) : Option Bool := place.read f.http f.stomp

end Form

/-! ## Nothing is at no place -/

theorem HttpParams.ext_of_places {h h' : HttpParams}
    (texts : ∀ field : HttpText, field.of h = field.of h') (port : h.port = h'.port)
    (caVerify : h.caVerify = h'.caVerify) (ssl : h.ssl = h'.ssl) : h = h' := by
  obtain ⟨⟩ := h
  obtain ⟨⟩ := h'
  cases texts .host
  cases texts .urlPrefix
  cases texts .caCert
  cases texts .clientCert
  cases texts .clientKey
  cases port
  cases caVerify
  cases ssl
  rfl

theorem StompSsl.ext_of_places {s s' : StompSsl}
    (texts : ∀ field : SslText, field.of s = field.of s') (useSsl : s.useSsl = s'.useSsl) :
    s = s' := by
  obtain ⟨⟩ := s
  obtain ⟨⟩ := s'
  cases texts .caCert
  cases texts .clientCert
  cases texts .clientKey
  cases useSsl
  rfl

theorem HeaderRow.ext_of_sides {r r' : HeaderRow} (key : r.key = r'.key)
    (value : r.value = r'.value) : r = r' := by
  obtain ⟨⟩ := r
  obtain ⟨⟩ := r'
  cases key
  cases value
  rfl

theorem StompForm.ext_of_places {s s' : StompForm}
    (texts : ∀ field : StompText, field.of s = field.of s') (port : s.port = s'.port)
    (ssl : s.ssl = s'.ssl) (headers : s.headers = s'.headers) : s = s' := by
  obtain ⟨⟩ := s
  obtain ⟨⟩ := s'
  cases texts .host
  cases texts .sendDestination
  cases texts .subscribeDestination
  cases texts .username
  cases texts .password
  cases port
  cases ssl
  cases headers
  rfl

/-- Blocks are the same if both or neither are there, and two that are there are the same. -/
theorem eq_of_isSome_eq {α : Type} {block block' : Option α} (shape : block.isSome = block'.isSome)
    (same : ∀ a ∈ block, ∀ a' ∈ block', a = a') : block = block' := by
  cases block with
  | none => exact (Option.not_isSome_iff_eq_none.1 (by simp [← shape])).symm
  | some a =>
    obtain ⟨a', rfl⟩ := Option.isSome_iff_exists.1 shape.symm
    exact congrArg some (same a rfl a' rfl)

namespace Form

variable {f f' : Form}

/-- Forms of one shape are the same if they hold the same everywhere. -/
theorem ext_of_places (type : f.connectionType = f'.connectionType)
    (http : f.http.isSome = f'.http.isSome) (stomp : f.stomp.map (·.shape) = f'.stomp.map (·.shape))
    (texts : ∀ place, f.textAt place = f'.textAt place)
    (ports : ∀ place, f.portAt place = f'.portAt place)
    (flags : ∀ place, f.flagAt place = f'.flagAt place) : f = f' := by
  obtain ⟨type₀, http₀, stomp₀⟩ := f
  obtain ⟨type₁, http₁, stomp₁⟩ := f'
  obtain rfl : http₀ = http₁ := by
    refine eq_of_isSome_eq http fun h found h' found' => ?_
    cases found
    cases found'
    exact HttpParams.ext_of_places (fun field => texts (.http field)) (ports .http)
      (flags .httpCaVerify) (flags .httpSsl)
  obtain rfl : stomp₀ = stomp₁ := by
    refine eq_of_isSome_eq (by simpa using congrArg Option.isSome stomp) fun s found s' found' => ?_
    cases found
    cases found'
    obtain ⟨ssl, rows⟩ := Prod.mk.inj (Option.some.inj stomp)
    refine StompForm.ext_of_places (fun field => texts (.stomp field)) (ports .stomp) ?_ ?_
    · refine eq_of_isSome_eq ssl fun t found t' found' => ?_
      have sslTexts (field : SslText) : s.ssl.bind field.of = s'.ssl.bind field.of :=
        texts (.ssl field)
      have useSsl : s.ssl.bind (·.useSsl) = s'.ssl.bind (·.useSsl) := flags .stompUseSsl
      rw [found, found'] at useSsl
      refine StompSsl.ext_of_places (fun field => ?_) useSsl
      have same := sslTexts field
      rwa [found, found'] at same
    · -- There are as many rows, and each is at the places of its number.
      refine List.ext_getElem rows fun i inside inside' => ?_
      have key : s.headers[i]?.bind (·.key) = s'.headers[i]?.bind (·.key) := texts (.headerKey i)
      have value : s.headers[i]?.bind (·.value) = s'.headers[i]?.bind (·.value) :=
        texts (.headerValue i)
      rw [List.getElem?_eq_getElem inside, List.getElem?_eq_getElem inside'] at key value
      exact HeaderRow.ext_of_sides key value
  cases type
  rfl

end Form

/-! ## What the form of a record holds -/

theorem HttpText.of_prune (field : HttpText) (h : HttpParams) :
    field.of h.prune = pruneText (field.of h) := by
  cases field <;> rfl

theorem SslText.of_prune (field : SslText) (s : StompSsl) :
    field.of s.prune = pruneText (field.of s) := by
  cases field <;> rfl

theorem StompText.of_toForm (field : StompText) (s : StompParams) :
    field.of s.toForm = pruneText (field.of s) := by
  cases field <;> rfl

theorem StompText.of_plainForm (field : StompText) (s : StompParams) :
    field.of s.plainForm = field.of s := by
  cases field <;> rfl

theorem pruneText_eq_self {s : Option String} (full : s ≠ some "") : pruneText s = s := by
  cases s with
  | none => rfl
  | some t => exact pruneText_some fun empty => full (congrArg some empty)

theorem pruneText_ne_empty (s : Option String) : pruneText s ≠ some "" := fun empty =>
  (pruneText_eq_some_iff.1 empty).2 rfl

/-- What is pruned in a block that is there is pruned in a block that may be there. -/
theorem bind_map_of_prunes {α β : Type} {f : α → β} {get : β → Option String}
    {get' : α → Option String} (prunes : ∀ a, get (f a) = pruneText (get' a)) (block : Option α) :
    (block.map f).bind get = pruneText (block.bind get') := by
  cases block with
  | none => rfl
  | some a => exact prunes a

section

variable (stomp : Option StompParams)

theorem bind_ssl_toForm :
    (stomp.map (·.toForm)).bind (·.ssl) = (stomp.bind (·.ssl)).map (·.prune) := by
  cases stomp <;> rfl

theorem bind_header_toForm (row : Nat) : (stomp.map (·.toForm)).bind (·.headers[row]?) =
    (stomp.bind (·.headers[row]?)).map (·.toRow) := by
  cases stomp with
  | none => rfl
  | some s => exact List.getElem?_map

theorem bind_header_plainForm (row : Nat) : (stomp.map (·.plainForm)).bind (·.headers[row]?) =
    (stomp.bind (·.headers[row]?)).map (·.plainRow) := by
  cases stomp with
  | none => rfl
  | some s => exact List.getElem?_map

end

theorem HttpParams.isEmpty_prune (h : HttpParams) : h.prune.isEmpty = h.isEmpty := by
  rw [Bool.eq_iff_iff, ← not_iff_not, Bool.not_eq_true, Bool.not_eq_true,
    isEmpty_eq_false_iff, isEmpty_eq_false_iff, isConfigured_prune]

namespace Garden

variable (g : Garden)

/-! The blocks of both forms are those of the record. -/

theorem http_toForm : g.toForm.http = g.params.http.map (·.prune) := by
  unfold params
  cases given : g.connectionParams <;> simp [toForm, given]

theorem stomp_toForm : g.toForm.stomp = g.params.stomp.map (·.toForm) := by
  unfold params
  cases given : g.connectionParams <;> simp [toForm, given]

theorem http_plainForm : g.plainForm.http = g.params.http := by
  unfold params
  cases given : g.connectionParams <;> simp [plainForm, given]

theorem stomp_plainForm : g.plainForm.stomp = g.params.stomp.map (·.plainForm) := by
  unfold params
  cases given : g.connectionParams <;> simp [plainForm, given]

theorem textAt_toForm (place : TextPlace) :
    g.toForm.textAt place = pruneText (g.params.textAt place) := by
  unfold Form.textAt ConnectionParams.textAt
  rw [http_toForm, stomp_toForm]
  cases place with
  | http field => exact bind_map_of_prunes field.of_prune _
  | stomp field => exact bind_map_of_prunes field.of_toForm _
  | ssl field =>
    rw [TextPlace.read, bind_ssl_toForm]
    exact bind_map_of_prunes field.of_prune _
  | headerKey row =>
    rw [TextPlace.read, bind_header_toForm]
    exact bind_map_of_prunes (fun h : StompHeader => (rfl : h.toRow.key = pruneText (some h.key))) _
  | headerValue row =>
    rw [TextPlace.read, bind_header_toForm]
    exact bind_map_of_prunes
      (fun h : StompHeader => (rfl : h.toRow.value = pruneText (some h.value))) _

theorem portAt_toForm (place : PortPlace) : g.toForm.portAt place = g.params.portAt place := by
  unfold Form.portAt ConnectionParams.portAt
  rw [http_toForm, stomp_toForm]
  cases place <;> exact Option.bind_map

theorem flagAt_toForm (place : FlagPlace) : g.toForm.flagAt place = g.params.flagAt place := by
  unfold Form.flagAt ConnectionParams.flagAt
  rw [http_toForm, stomp_toForm]
  cases place with
  | httpCaVerify => exact Option.bind_map
  | httpSsl => exact Option.bind_map
  | stompUseSsl =>
    rw [FlagPlace.read, bind_ssl_toForm]
    exact Option.bind_map

theorem isEmpty_http_toForm : g.toForm.http.map (·.isEmpty) = g.params.http.map (·.isEmpty) := by
  rw [http_toForm, Option.map_map]
  exact Option.map_congr fun h _ => h.isEmpty_prune

theorem shape_stomp_toForm : g.toForm.stomp.map (·.shape) = g.params.stomp.map (·.shape) := by
  rw [stomp_toForm, Option.map_map]
  refine Option.map_congr fun s _ => ?_
  simp [Stomp.shape, StompParams.toForm]

/-! The plain form holds what the record holds. -/

theorem textAt_plainForm (place : TextPlace) :
    g.plainForm.textAt place = g.params.textAt place := by
  unfold Form.textAt ConnectionParams.textAt
  rw [http_plainForm, stomp_plainForm]
  cases place with
  | http field => rfl
  | stomp field =>
    rw [TextPlace.read, Option.bind_map]
    exact Option.bind_congr fun s _ => field.of_plainForm s
  | ssl field => rw [TextPlace.read, Option.bind_map]; rfl
  | headerKey row => rw [TextPlace.read, bind_header_plainForm, Option.bind_map]; rfl
  | headerValue row => rw [TextPlace.read, bind_header_plainForm, Option.bind_map]; rfl

theorem portAt_plainForm (place : PortPlace) :
    g.plainForm.portAt place = g.params.portAt place := by
  unfold Form.portAt ConnectionParams.portAt
  rw [http_plainForm, stomp_plainForm]
  cases place with
  | http => rfl
  | stomp => exact Option.bind_map

theorem flagAt_plainForm (place : FlagPlace) :
    g.plainForm.flagAt place = g.params.flagAt place := by
  unfold Form.flagAt ConnectionParams.flagAt
  rw [http_plainForm, stomp_plainForm]
  cases place with
  | httpCaVerify => rfl
  | httpSsl => rfl
  | stompUseSsl => rw [FlagPlace.read, Option.bind_map]; rfl

theorem shape_stomp_plainForm :
    g.plainForm.stomp.map (·.shape) = g.params.stomp.map (·.shape) := by
  rw [stomp_plainForm, Option.map_map]
  refine Option.map_congr fun s _ => ?_
  simp [Stomp.shape, StompParams.plainForm, Stomp.withHeaders]

/-- A record is shown as it is exactly if it has no empty text. -/
theorem toForm_eq_plainForm_iff :
    g.toForm = g.plainForm ↔ ∀ place, g.params.textAt place ≠ some "" := by
  constructor
  · intro same place
    rw [← g.textAt_plainForm, ← same, textAt_toForm]
    exact pruneText_ne_empty _
  · intro full
    refine Form.ext_of_places rfl ?_ ?_ (fun place => ?_) (fun place => ?_) fun place => ?_
    · rw [http_toForm, http_plainForm, Option.isSome_map]
    · rw [shape_stomp_toForm, shape_stomp_plainForm]
    · rw [textAt_toForm, textAt_plainForm, pruneText_eq_self (full place)]
    · rw [portAt_toForm, portAt_plainForm]
    · rw [flagAt_toForm, flagAt_plainForm]

/-- Pruning drops the empty texts and nothing else. The form has a text just where the record has
one that is not empty, and its ports, switches, blocks and header rows are those of the record. Its
HTTP block is empty exactly if the record's is, and the record is shown as it is exactly if none of
its texts is empty. -/
theorem toForm_prunes_exactly :
    (∀ place t, g.toForm.textAt place = some t ↔ g.params.textAt place = some t ∧ t ≠ "") ∧
    (∀ place, g.toForm.portAt place = g.params.portAt place) ∧
    (∀ place, g.toForm.flagAt place = g.params.flagAt place) ∧
    g.toForm.connectionType = g.connectionType ∧
    g.toForm.http.map (·.isEmpty) = g.params.http.map (·.isEmpty) ∧
    g.toForm.stomp.map (fun s => (s.ssl.isSome, s.headers.length)) =
      g.params.stomp.map (fun s => (s.ssl.isSome, s.headers.length)) ∧
    (g.toForm = g.plainForm ↔ ∀ place, g.params.textAt place ≠ some "") := by
  refine ⟨fun place t => ?_, g.portAt_toForm, g.flagAt_toForm, rfl, g.isEmpty_http_toForm,
    g.shape_stomp_toForm, g.toForm_eq_plainForm_iff⟩
  rw [textAt_toForm, pruneText_eq_some_iff]

end Garden

end GardenAdmin
