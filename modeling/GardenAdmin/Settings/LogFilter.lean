import GardenAdmin.Settings.Basic
import GardenAdmin.Text.Alphanumeric
import GardenAdmin.Text.Blank
import GardenAdmin.Text.Cut
import GardenAdmin.Text.Integer

/-!
# Log filters

A log filter is a list of directives, separated by commas. A directive has a level, or allows all levels,
and says what it is about: targets that begin with a text, and in brackets a span or a field, as in
`target[span{field}]=level`. A line is judged by the most specific directive that is about it, and of
two equal ones by the later. Malformed directives are passed over, and where none is left, only errors
are logged.
-/

namespace GardenAdmin

/-- From nothing to everything. -/
inductive LogLevel where
  | off
  | error
  | warn
  | info
  | debug
  | trace
  deriving DecidableEq, Repr

namespace LogLevel

def all : List LogLevel := [.off, .error, .warn, .info, .debug, .trace]

def name : LogLevel → String
  | .off => "off"
  | .error => "error"
  | .warn => "warn"
  | .info => "info"
  | .debug => "debug"
  | .trace => "trace"

def rank : LogLevel → Nat
  | .off => 0
  | .error => 1
  | .warn => 2
  | .info => 3
  | .debug => 4
  | .trace => 5

/-- Reads a name in letters of any case, or a rank. -/
def ofString? (s : String) : Option LogLevel :=
  all.find? fun l => l.name == s.toLower || Text.nat64? s == some l.rank

end LogLevel

/-- A line that may be logged, outside of any span. -/
structure LogLine where
  target : String
  /-- The names of its fields. -/
  fields : List String
  level : LogLevel
  deriving DecidableEq, Repr

structure LogDirective where
  /-- It is about targets that begin with this text. -/
  target : String := ""
  /-- It is about lines with a field of this name. -/
  field : Option String := none
  /-- It is only about what happens within spans. -/
  inSpan : Bool := false
  level : LogLevel
  deriving DecidableEq, Repr

/-- Why a text is no directive. -/
inductive DirectiveFault where
  /-- It does not have the form it should have. -/
  | malformed
  /-- One of its parts would begin or end within a character. -/
  | splitCharacter
  deriving DecidableEq, Repr

namespace LogDirective

/-! ## Reading

A directive is scanned without the blanks around it, and its parts are then cut out at the positions
found, in bytes. They are cut out of the text with the blanks, so blanks in front shift every part. -/

/-- The part of a text between two positions. -/
def part (text : List Char) (start stop : Nat) : Except DirectiveFault (List Char) :=
  (Text.cut? start stop text).elim (.error .splitCharacter) .ok

/-- The position of the first character that `stops`, and the text from there. -/
def scan (stops : Char → Bool) (position : Nat) (cs : List Char) : Nat × List Char :=
  (position + Text.byteLength (cs.takeWhile (!stops ·)), cs.dropWhile (!stops ·))

/-- The characters a directive may begin with. -/
def canBegin (c : Char) : Bool :=
  Text.isAlphanumeric c || c == '-' || c == ':' || c == '_' || c == '['

/-- Reads the level from a position on; none given means all levels. -/
def readLevel (text : List Char) (position : Nat) : Except DirectiveFault LogLevel := do
  let level ← part text position (Text.byteLength text)
  if level = [] then return .trace
  else (LogLevel.ofString? (.ofList level)).elim (.error .malformed) .ok

/-- Reads what follows the brackets: an equals sign and a level, or nothing. -/
def readLevelAfter (text : List Char) (position : Nat) :
    List Char → Except DirectiveFault LogLevel
  | [] => .ok .trace
  | '=' :: _ => readLevel text (position + 1)
  | _ => .error .malformed

/-- A directive of all levels for what stands in brackets. A named span and a field with a value only
occur within spans. -/
def ofBrackets (span field : List Char) : LogDirective where
  field := some (.ofList (field.takeWhile (· ≠ '=')))
  inSpan := span ≠ [] || field.contains '='
  level := .trace

/-- Reads a field behind its opening brace, up to the closing bracket; returns the position behind it
and what follows there. -/
def readField (text span : List Char) (position : Nat) (cs : List Char) :
    Except DirectiveFault (LogDirective × Nat × List Char) :=
  match scan (· == '\x7d') position cs with
  | (_, []) => .error .malformed
  | (i, _ :: rest) => do
    let field ← part text position i
    match field, rest with
    | _ :: _, ']' :: rest => return (ofBrackets span field, i + 2, rest)
    | _, _ => throw .malformed

/-- Reads what stands in brackets, behind the opening one; returns the position behind them and what
follows there. Brackets without a field name a span, if only one without a name. -/
def readBrackets (text : List Char) (position : Nat) (cs : List Char) :
    Except DirectiveFault (LogDirective × Nat × List Char) :=
  match scan (fun c => c == ']' || c == '\x7b') position cs with
  | (_, []) => .error .malformed
  | (i, c :: rest) => do
    let span ← part text position i
    if c = ']' then return ({ inSpan := true, level := .trace }, i + 1, rest)
    else readField text span (i + 1) rest

/-- A word by itself: a level if there is one of that name, and else a target of all levels. -/
def ofWord (s : String) : LogDirective :=
  ((LogLevel.ofString? s).map ({ level := · })).getD { target := s, level := .trace }

/-- Reads a directive. -/
def parse (s : String) : Except DirectiveFault LogDirective :=
  let text := s.toList
  let trimmed := (Text.trim s).toList
  if !trimmed.head?.any canBegin then .error .malformed
  else match scan (fun c => c == '=' || c == '[') 0 trimmed with
    | (_, []) => .ok (ofWord s)
    | (i, c :: rest) => do
      let target := String.ofList (← part text 0 i)
      if c = '=' then return { target, level := ← readLevel text (i + 1) }
      else
        let (d, j, rest) ← readBrackets text (i + 1) rest
        return { d with target, level := ← readLevelAfter text j rest }

/-! ## Judging -/

def isAbout (d : LogDirective) (line : LogLine) : Bool :=
  !d.inSpan && (after? d.target line.target).isSome && d.field.all line.fields.contains

/-- Whether a directive counts at least as much as another one about the same line: the longer target
counts more, then a field, then the later name of a field. -/
def outranks (d b : LogDirective) : Bool :=
  if d.target.length ≠ b.target.length then b.target.length < d.target.length
  else
    match d.field, b.field with
    | some x, some y => !(x < y)
    | none, some _ => false
    | _, none => true

/-- The directive that counts for a line. -/
def governing? (ds : List LogDirective) (line : LogLine) : Option LogDirective :=
  (ds.filter (·.isAbout line)).foldl (fun best d =>
    match best with
    | some b => if d.outranks b then some d else some b
    | none => some d) none

end LogDirective

abbrev LogFilter := List LogDirective

namespace LogFilter

/-- Reads a filter; there is none if a directive would split a character. -/
def ofString? (s : String) : Option LogFilter :=
  let results := ((s.splitOn ",").filter (· ≠ "")).map LogDirective.parse
  if results.any fun r => r matches .error .splitCharacter then none
  else match results.filterMap (·.toOption) with
    | [] => some [{ level := .error }]
    | ds => some ds

/-- Whether a line is logged. -/
def admits (f : LogFilter) (line : LogLine) : Bool :=
  (LogDirective.governing? f line).any fun d => line.level.rank ≤ d.level.rank

end LogFilter

end GardenAdmin
