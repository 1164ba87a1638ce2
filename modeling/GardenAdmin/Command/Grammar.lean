/-!
# Command lines

The form of a command line: options with a name, and operands. An option that takes a value has it
behind an equals sign or as the next word, which then must not look like an option; after the word `--`
every word is an operand. What the words mean is a change to some settings of type `σ`.

Of two faults the earlier is reported, but for one case: a value in a word of its own is not looked at
before the word after it is known to be an option or operand of the command.
-/

namespace GardenAdmin

/-- Why a command line is not carried out. -/
inductive UsageError where
  /-- It does not have the form it should have. -/
  | malformed
  /-- The value of an option is refused. -/
  | refused (message : String)
  /-- It asks for help instead. -/
  | help
  /-- It asks for the version instead. -/
  | version
  deriving DecidableEq, Repr

/-- Reads a word as a change. -/
abbrev WordReader (σ : Type) := String → Except UsageError (σ → σ)

inductive OptionForm (σ : Type) where
  | flag (set : σ → σ)
  /-- Takes a value, at most once unless it may repeat. -/
  | value (repeats : Bool) (read : WordReader σ)

/-- The option on other settings. -/
def OptionForm.lift {σ τ : Type} (f : (σ → σ) → τ → τ) : OptionForm σ → OptionForm τ
  | .flag set => .flag (f set)
  | .value repeats read => .value repeats fun word => (read word).map f

structure NamedOption (σ : Type) where
  /-- Without the dashes. -/
  name : String
  form : OptionForm σ

structure Grammar (σ : Type) where
  options : List (NamedOption σ)
  /-- Readers of the operands, in order. -/
  operands : List (WordReader σ) := []
  /-- How many operands there have to be. -/
  required : Nat := 0
  /-- Whether the version may be asked for. -/
  hasVersion : Bool := false

/-- An option that takes a value. -/
structure Pending (σ : Type) where
  name : String
  repeats : Bool
  read : WordReader σ

/-- What has been read of a command line. -/
structure Reading (σ : Type) where
  settings : σ
  /-- The options seen. -/
  seen : List String := []
  /-- How many operands were read. -/
  count : Nat := 0
  /-- The option whose value is the next word. -/
  pending : Option (Pending σ) := none
  /-- An option with its value that is still to be looked at. -/
  held : Option (Pending σ × String) := none
  /-- Every word from here is an operand. -/
  operandsOnly : Bool := false

/-- A word as the kinds of word there are. -/
inductive Word where
  | operand
  /-- The word `--`. -/
  | delimiter
  /-- An option by its name, with the value behind an equals sign. -/
  | long (name : String) (value : Option String)
  /-- An option by its letter. -/
  | short (letter : Char)
  deriving DecidableEq, Repr

/-- The parts before and after the first equals sign. -/
def splitEquals (cs : List Char) : String × Option String :=
  (.ofList (cs.takeWhile (· ≠ '=')),
    match cs.dropWhile (· ≠ '=') with
    | [] => none
    | _ :: value => some (.ofList value))

def Word.ofString (s : String) : Word :=
  match s.toList with
  | ['-', '-'] => .delimiter
  | '-' :: '-' :: cs => .long (splitEquals cs).1 (splitEquals cs).2
  | '-' :: c :: _ => .short c
  | _ => .operand

namespace Grammar

variable {σ : Type}

/-- Reads the value of an option. -/
def readValue (p : Reading σ) (o : Pending σ) (value : String) : Except UsageError (Reading σ) :=
  if !o.repeats && p.seen.contains o.name then .error .malformed
  else (o.read value).map fun set =>
    { p with settings := set p.settings, seen := o.name :: p.seen, pending := none }

/-- Reads a flag. -/
def readFlag (p : Reading σ) (name : String) (set : σ → σ) : Except UsageError (Reading σ) :=
  if p.seen.contains name then .error .malformed
  else .ok { p with settings := set p.settings, seen := name :: p.seen }

/-- Looks at the value that is held back. -/
def release (p : Reading σ) : Except UsageError (Reading σ) :=
  match p.held with
  | some (o, value) => readValue { p with held := none } o value
  | none => .ok p

def find? (g : Grammar σ) (name : String) : Option (OptionForm σ) :=
  (g.options.find? (·.name == name)).map (·.form)

/-- Reads an option, which may leave its value to the next word. -/
def readOption (g : Grammar σ) (p : Reading σ) (name : String) (value : Option String) :
    Except UsageError (Reading σ) :=
  match g.find? name, value with
  | some (.flag set), none => do readFlag (← release p) name set
  | some (.value repeats read), some v => do readValue (← release p) ⟨name, repeats, read⟩ v
  | some (.value repeats read), none => do
    return { ← release p with pending := some ⟨name, repeats, read⟩ }
  | _, _ =>
    if name = "help" ∧ value = none then release p >>= fun _ => .error .help
    else if name = "version" ∧ value = none ∧ g.hasVersion then release p >>= fun _ => .error .version
    else .error .malformed

/-- Reads an option with one letter. -/
def readShort (g : Grammar σ) (p : Reading σ) (letter : Char) : Except UsageError (Reading σ) :=
  if letter = 'h' then release p >>= fun _ => .error .help
  else if letter = 'V' ∧ g.hasVersion then release p >>= fun _ => .error .version
  else .error .malformed

/-- Reads an operand. -/
def readOperand (g : Grammar σ) (p : Reading σ) (word : String) : Except UsageError (Reading σ) :=
  match g.operands[p.count]? with
  | none => .error .malformed
  | some read => do
    let p ← release p
    return { p with settings := (← read word) p.settings, count := p.count + 1 }

/-- Reads one word. -/
def readWord (g : Grammar σ) (p : Reading σ) (word : String) : Except UsageError (Reading σ) :=
  if p.operandsOnly then g.readOperand p word
  else
    match p.pending, Word.ofString word with
    | some o, .operand => .ok { p with pending := none, held := some (o, word) }
    | some _, _ => .error .malformed
    | none, .operand => g.readOperand p word
    | none, .delimiter => .ok { p with operandsOnly := true }
    | none, .long name value => g.readOption p name value
    | none, .short letter => g.readShort p letter

/-- The settings once all words are read. -/
def finish (g : Grammar σ) (p : Reading σ) : Except UsageError σ :=
  if p.pending.isSome then .error .malformed
  else do
    let p ← release p
    if p.count < g.required then .error .malformed else .ok p.settings

/-- Reads a whole command line onto some settings. -/
def read (g : Grammar σ) (settings : σ) (words : List String) : Except UsageError σ :=
  words.foldlM g.readWord { settings } >>= g.finish

/-- Reads the options in front of the first operand; returns what has been read, that operand and the
words after it. -/
def readFront (g : Grammar σ) :
    List String → Reading σ → Except UsageError (Reading σ × String × List String)
  | [], _ => .error .malformed
  | word :: rest, p =>
    if p.pending.isNone && !p.operandsOnly && Word.ofString word == .operand then .ok (p, word, rest)
    else do readFront g rest (← g.readWord p word)

end Grammar

end GardenAdmin
