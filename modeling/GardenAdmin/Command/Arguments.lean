import GardenAdmin.Command.Basic
import GardenAdmin.Command.Grammar
import GardenAdmin.Text.Blank
import GardenAdmin.Text.Integer

/-!
# Command arguments

The words that ask for each command. Every command reads its words onto a command with blank
arguments.
-/

namespace GardenAdmin

/-- Any text. -/
def readText {σ : Type} (set : String → σ → σ) : WordReader σ := fun s => .ok (set s)

/-- A path, which is not empty. -/
def readPath {σ : Type} (set : String → σ → σ) : WordReader σ := fun s =>
  if s = "" then .error .malformed else .ok (set s)

/-- A signed 64-bit integer. -/
def readInteger {σ : Type} (set : Int → σ → σ) : WordReader σ := fun s =>
  (Text.int64? s).elim (.error .malformed) (.ok ∘ set)

/-- A connection type that a form can be edited to, in letters of any case. -/
def readConnectionType {σ : Type} (set : ConnectionType → σ → σ) : WordReader σ := fun s =>
  if s.toLower = "http" then .ok (set .http)
  else if s.toLower = "stomp" then .ok (set .stomp)
  else .error (.refused ("unknown connection type '" ++ s ++ "' (expected http or stomp)"))

/-- A header row, written as its sides around an equals sign. -/
def readHeader {σ : Type} (set : HeaderRow → σ → σ) : WordReader σ := fun s =>
  match splitEquals s.toList with
  | (key, some value) => .ok (set ⟨some (Text.trim key), some (Text.trim value)⟩)
  | (_, none) => .error (.refused ("header '" ++ s ++ "' must be KEY=VALUE"))

namespace ConfigureArgs

/-- A change to the edits. -/
def onEdits {α : Type} (set : α → Edits → Edits) (v : α) (a : ConfigureArgs) : ConfigureArgs :=
  { a with edits := set v a.edits }

def options : List (NamedOption ConfigureArgs) := [
  ⟨"form", .value false (readPath fun v a => { a with form := some v })⟩,
  ⟨"type", .value false (readConnectionType
    (onEdits fun v e => { e with connectionType := some v }))⟩,
  ⟨"http-host", .value false (readText (onEdits fun v e => { e with httpHost := some v }))⟩,
  ⟨"http-port", .value false (readInteger (onEdits fun v e => { e with httpPort := some v }))⟩,
  ⟨"stomp-host", .value false (readText (onEdits fun v e => { e with stompHost := some v }))⟩,
  ⟨"stomp-port", .value false (readInteger (onEdits fun v e => { e with stompPort := some v }))⟩,
  ⟨"stomp-header", .value true (readHeader
    (onEdits fun v e => { e with stompHeaders := e.stompHeaders ++ [v] }))⟩,
  ⟨"clear-stomp-headers", .flag fun a =>
    { a with edits := { a.edits with clearStompHeaders := true } }⟩,
  ⟨"dry-run", .flag fun a => { a with dryRun := true }⟩]

end ConfigureArgs

/-- The words of a command beside options that every command takes. -/
structure CommandGrammar where
  name : String
  /-- What the arguments are read onto. -/
  Arguments : Type
  blank : Arguments
  options : List (NamedOption Arguments) := []
  operand : Option (WordReader Arguments) := none
  operandRequired : Bool := true
  command : Arguments → Command

namespace CommandGrammar

/-- A command without arguments. -/
def plain (name : String) (command : Command) : CommandGrammar :=
  { name, Arguments := Unit, blank := (), command := fun _ => command }

/-- A command on one name. -/
def named (name : String) (command : String → Command) : CommandGrammar :=
  { name, Arguments := String, blank := "", operand := some (readText fun v _ => v), command }

/-- A command on one name or on all. -/
def optionallyNamed (name : String) (command : Option String → Command) : CommandGrammar where
  name
  Arguments := Option String
  blank := none
  operand := some (readText fun v _ => some v)
  operandRequired := false
  command

/-- A command on a file. -/
def onFile (name : String) (command : String → Command) : CommandGrammar :=
  { name, Arguments := String, blank := "", operand := some (readPath fun v _ => v), command }

def configure : CommandGrammar where
  name := "configure"
  Arguments := ConfigureArgs
  blank := { name := "" }
  options := ConfigureArgs.options
  operand := some (readText fun v a => { a with name := v })
  command := .configure

/-- All commands. -/
def all : List CommandGrammar := [
  plain "list" .list,
  named "show" .show,
  onFile "create" .create,
  named "delete" .delete,
  configure,
  optionallyNamed "sync" .sync,
  optionallyNamed "watch" .watch,
  onFile "check" .check,
  onFile "sanitize" .sanitize]

def find? (name : String) : Option CommandGrammar := all.find? (·.name == name)

/-- The grammar of the arguments together with that of options on settings `τ`. -/
def grammar {τ : Type} (c : CommandGrammar) (shared : List (NamedOption τ)) :
    Grammar (τ × c.Arguments) where
  options := shared.map (onFirst ·) ++ c.options.map (onSecond ·)
  operands := (c.operand.map fun read word => (read word).map (Prod.map id)).toList
  required := if c.operandRequired then c.operand.toList.length else 0
where
  onFirst (o : NamedOption τ) : NamedOption (τ × c.Arguments) :=
    ⟨o.name, o.form.lift fun f => Prod.map f id⟩
  onSecond (o : NamedOption c.Arguments) : NamedOption (τ × c.Arguments) :=
    ⟨o.name, o.form.lift fun f => Prod.map id f⟩

/-- Reads the words behind the name of a command. -/
def read {τ : Type} (c : CommandGrammar) (shared : List (NamedOption τ)) (settings : τ)
    (words : List String) : Except UsageError (τ × Command) :=
  ((c.grammar shared).read (settings, c.blank) words).map (Prod.map id c.command)

end CommandGrammar

/-- Whether help is asked for in general, or about one command, which may be help itself. -/
def isHelpTopic : List String → Bool
  | [] => true
  | [name] => name == "help" || (CommandGrammar.find? name).isSome
  | _ => false

/-- Reads a command line: options on settings `τ`, which may also stand behind the command, and a
command. The first settings returned are those in front of the command. -/
def readCommandLine {τ : Type} (shared : List (NamedOption τ)) (hasVersion : Bool) (blank : τ)
    (words : List String) : Except UsageError (τ × τ × Command) := do
  let front : Grammar τ := { options := shared, hasVersion }
  let (p, name, rest) ← front.readFront words { settings := blank }
  match CommandGrammar.find? name with
  | some c =>
    let behind ← c.read shared blank rest
    return (← front.finish p, behind)
  | none => throw (if name = "help" ∧ isHelpTopic rest then .help else .malformed)

/-- Reads a command by itself. -/
def Command.read (words : List String) : Except UsageError Command :=
  (readCommandLine (τ := Unit) [] false () words).map (·.2.2)

end GardenAdmin
