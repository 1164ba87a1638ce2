import GardenAdmin.Json.Doc

/-!
# Reading JSON

`JsonText.read` reads a text of strict JSON: no comments, no trailing commas, no leading zeros, and
only the four blanks of the format around tokens. Every function takes the characters that are left
and gives back what it read with the rest. Whatever the text, there is a document, which tells how
far the text is JSON.
-/

namespace GardenAdmin.Json

open GardenAdmin.Text (digit?)

/-- The blanks allowed between tokens. -/
def isSpace (c : Char) : Bool := c == ' ' || c == '\t' || c == '\n' || c == '\r'

def skipSpace (cs : List Char) : List Char := cs.dropWhile isSpace

/-! ## Strings -/

/-- A piece of a string literal: a character, or the code unit of a hexadecimal escape. -/
inductive Piece where
  | char (c : Char)
  | unit (n : Nat)
  deriving DecidableEq, Repr

def hexDigit? (c : Char) : Option Nat :=
  if '0' ≤ c ∧ c ≤ '9' then some (c.toNat - 0x30)
  else if 'a' ≤ c ∧ c ≤ 'f' then some (c.toNat - 0x57)
  else if 'A' ≤ c ∧ c ≤ 'F' then some (c.toNat - 0x37)
  else none

/-- The code unit that four hexadecimal digits name. -/
def unit? (a b c d : Char) : Option Nat := do
  return ((← hexDigit? a) * 16 + (← hexDigit? b)) * 256 + ((← hexDigit? c) * 16 + (← hexDigit? d))

/-- The character of a two-character escape. -/
def escaped? (c : Char) : Option Char :=
  match c with
  | '"' => some '"'
  | '\\' => some '\\'
  | '/' => some '/'
  | 'b' => some '\x08'
  | 'f' => some '\x0c'
  | 'n' => some '\n'
  | 'r' => some '\r'
  | 't' => some '\t'
  | _ => none

/-- Reads up to the closing quote. -/
def readPieces : List Char → Option (List Piece × List Char)
  | [] => none
  | '"' :: cs => some ([], cs)
  | '\\' :: 'u' :: a :: b :: c :: d :: cs => do
    let n ← unit? a b c d
    let (ps, rest) ← readPieces cs
    return (.unit n :: ps, rest)
  | '\\' :: e :: cs => do
    let c ← escaped? e
    let (ps, rest) ← readPieces cs
    return (.char c :: ps, rest)
  | c :: cs => do
    if c.toNat < 0x20 || c == '\\' then none
    else
      let (ps, rest) ← readPieces cs
      return (.char c :: ps, rest)

def isHighSurrogate (n : Nat) : Bool := 0xD800 ≤ n && n < 0xDC00

def isLowSurrogate (n : Nat) : Bool := 0xDC00 ≤ n && n < 0xE000

/-- The character of a surrogate pair. -/
def pairChar (high low : Nat) : Char :=
  Char.ofNat (0x10000 + (high - 0xD800) * 0x400 + (low - 0xDC00))

/-- The text of the pieces; `none` if a surrogate stands alone. -/
def joinPieces : List Piece → Option (List Char)
  | [] => some []
  | .char c :: ps => (c :: ·) <$> joinPieces ps
  | .unit h :: .unit l :: ps =>
    if isHighSurrogate h then
      if isLowSurrogate l then (pairChar h l :: ·) <$> joinPieces ps else none
    else if isLowSurrogate h then none
    else (Char.ofNat h :: ·) <$> joinPieces (.unit l :: ps)
  | .unit n :: ps =>
    if isHighSurrogate n || isLowSurrogate n then none else (Char.ofNat n :: ·) <$> joinPieces ps

/-- Reads a string after its opening quote. -/
def readString (cs : List Char) : Option (Option String × List Char) := do
  let (ps, rest) ← readPieces cs
  return ((joinPieces ps).map String.ofList, rest)

/-! ## Numbers -/

/-- The digits at the front. -/
def readDigits : List Char → List Nat × List Char
  | [] => ([], [])
  | c :: cs =>
    match digit? c with
    | some d => let (ds, rest) := readDigits cs; (d :: ds, rest)
    | none => ([], c :: cs)

/-- Reads one or more digits. -/
def readDigits1 (cs : List Char) : Option (List Nat × List Char) :=
  match readDigits cs with
  | ([], _) => none
  | (ds, rest) => some (ds, rest)

/-- Reads digits that start with a zero only if it is the only one. -/
def readWhole (cs : List Char) : Option (List Nat × List Char) := do
  let (ds, rest) ← readDigits1 cs
  match ds with
  | 0 :: _ :: _ => none
  | _ => return (ds, rest)

/-- Reads a fraction if there is one. -/
def readFraction : List Char → Option (Option (List Nat) × List Char)
  | '.' :: cs => do
    let (ds, rest) ← readDigits1 cs
    return (some ds, rest)
  | cs => some (none, cs)

/-- The value of decimal digits. -/
def digitsValue (ds : List Nat) : Nat := ds.foldl (fun n d => 10 * n + d) 0

/-- Reads the sign and the digits of an exponent. -/
def readPower : List Char → Option (Int × List Char)
  | '+' :: cs => do
    let (ds, rest) ← readDigits1 cs
    return ((digitsValue ds : Int), rest)
  | '-' :: cs => do
    let (ds, rest) ← readDigits1 cs
    return (-(digitsValue ds : Int), rest)
  | cs => do
    let (ds, rest) ← readDigits1 cs
    return ((digitsValue ds : Int), rest)

/-- Reads an exponent if there is one. -/
def readExponent : List Char → Option (Option Int × List Char)
  | 'e' :: cs | 'E' :: cs => do
    let (n, rest) ← readPower cs
    return (some n, rest)
  | cs => some (none, cs)

/-- Reads a number literal. -/
def readLiteral (cs : List Char) : Option (Literal × List Char) := do
  let (negative, cs) := match cs with
    | '-' :: cs => (true, cs)
    | cs => (false, cs)
  let (whole, cs) ← readWhole cs
  let (fraction, cs) ← readFraction cs
  let (power, cs) ← readExponent cs
  return (⟨negative, whole, fraction.getD [], power.getD 0, fraction.isNone && power.isNone⟩, cs)

/-! ## Values -/

/-- What an array that is not closed ends with. -/
def brokenItems : List Doc := [.broken]

/-- What an object that is not closed ends with. -/
def brokenMembers : List (Option String × Doc) := [(none, .broken)]

mutual

/-- Reads a value; there is no rest if the text stops being JSON within it. Each step down or along
takes one unit of `fuel`. -/
def readValue : Nat → List Char → Doc × Option (List Char)
  | 0, _ => (.broken, none)
  | fuel + 1, cs =>
    match skipSpace cs with
    | 'n' :: 'u' :: 'l' :: 'l' :: cs => (.null, some cs)
    | 't' :: 'r' :: 'u' :: 'e' :: cs => (.bool true, some cs)
    | 'f' :: 'a' :: 'l' :: 's' :: 'e' :: cs => (.bool false, some cs)
    | '"' :: cs =>
      match readString cs with
      | some (s, rest) => (.string s, some rest)
      | none => (.broken, none)
    | '[' :: cs =>
      match skipSpace cs with
      | ']' :: rest => (.array [], some rest)
      | _ => let (xs, rest) := readItems fuel cs; (.array xs, rest)
    | '\x7b' :: cs =>
      match skipSpace cs with
      | '\x7d' :: rest => (.object [], some rest)
      | _ => let (ms, rest) := readMembers fuel cs; (.object ms, rest)
    | cs =>
      match readLiteral cs with
      | some (l, rest) => (.number l.number?, some rest)
      | none => (.broken, none)
termination_by structural fuel => fuel

/-- Reads one or more items and the closing bracket. -/
def readItems : Nat → List Char → List Doc × Option (List Char)
  | 0, _ => (brokenItems, none)
  | fuel + 1, cs =>
    let (x, rest) := readValue fuel cs
    match rest.map skipSpace with
    | some (',' :: cs) => let (xs, rest) := readItems fuel cs; (x :: xs, rest)
    | some (']' :: rest) => ([x], some rest)
    | _ => (x :: brokenItems, none)
termination_by structural fuel => fuel

/-- Reads the colon and the value of a member. -/
def readMemberValue : Nat → List Char → Doc × Option (List Char)
  | 0, _ => (.broken, none)
  | fuel + 1, cs =>
    match skipSpace cs with
    | ':' :: cs => readValue fuel cs
    | _ => (.broken, none)
termination_by structural fuel => fuel

/-- Reads one or more members and the closing brace. -/
def readMembers : Nat → List Char → List (Option String × Doc) × Option (List Char)
  | 0, _ => (brokenMembers, none)
  | fuel + 1, cs =>
    match skipSpace cs with
    | '"' :: cs =>
      match readString cs with
      | some (k, cs) =>
        let (x, rest) := readMemberValue fuel cs
        match rest.map skipSpace with
        | some (',' :: cs) => let (ms, rest) := readMembers fuel cs; ((k, x) :: ms, rest)
        | some ('\x7d' :: rest) => ([(k, x)], some rest)
        | _ => ((k, x) :: brokenMembers, none)
      | none => (brokenMembers, none)
    | _ => (brokenMembers, none)
termination_by structural fuel => fuel

end

/-- Enough fuel for any text of that length: each value takes two units and at least one character. -/
def fuelFor (cs : List Char) : Nat := 2 * cs.length + 2

/-- What a text reads as. -/
structure JsonText where
  doc : Doc
  /-- The text is that document and nothing else but blanks. -/
  isWhole : Bool
  deriving Repr

def JsonText.read (text : String) : JsonText :=
  let (doc, rest) := readValue (fuelFor text.toList) text.toList
  { doc, isWhole := rest.any fun cs => (skipSpace cs).isEmpty }

/-- How many arrays and objects a text may have open at once. -/
def maxDepth : Nat := 127

/-- The value a text denotes. -/
def Value.parse? (text : String) : Option Value :=
  let t := JsonText.read text
  if t.isWhole then t.doc.value? maxDepth else none

end GardenAdmin.Json
