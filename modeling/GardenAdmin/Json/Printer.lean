import GardenAdmin.Json.Value

/-!
# Writing JSON

`Value.compact` writes a value without blanks, `Value.pretty` with a line for every item and two
blanks for every level. In strings the quote, the backslash and the control characters below the
blank are escaped and everything else stands as it is.
-/

namespace GardenAdmin.Json

/-- The lower-case hexadecimal digit of a number below 16. -/
def lowerHexDigit (n : Nat) : Char :=
  if n < 10 then Char.ofNat (0x30 + n) else Char.ofNat (0x57 + n)

/-- A character inside a string literal. -/
def escapeChar (c : Char) : List Char :=
  match c with
  | '"' => ['\\', '"']
  | '\\' => ['\\', '\\']
  | '\x08' => ['\\', 'b']
  | '\x0c' => ['\\', 'f']
  | '\n' => ['\\', 'n']
  | '\r' => ['\\', 'r']
  | '\t' => ['\\', 't']
  | c =>
    if c.toNat < 0x20 then
      ['\\', 'u', '0', '0', lowerHexDigit (c.toNat / 16), lowerHexDigit (c.toNat % 16)]
    else [c]

/-- A text as a string literal. -/
def stringLiteral (s : String) : List Char := '"' :: s.toList.flatMap escapeChar ++ ['"']

namespace Value

/-- The texts of a value without parts. -/
def boolText (b : Bool) : List Char :=
  if b then ['t', 'r', 'u', 'e'] else ['f', 'a', 'l', 's', 'e']

def nullText : List Char := ['n', 'u', 'l', 'l']

mutual

/-- The characters of the compact text. -/
def compactChars : Value → List Char
  | .null => nullText
  | .bool b => boolText b
  | .number n => n.render
  | .string s => stringLiteral s
  | .array [] => ['[', ']']
  | .array (x :: xs) => '[' :: compactChars x ++ compactItems xs
  | .object [] => ['\x7b', '\x7d']
  | .object ((k, x) :: ms) => '\x7b' :: stringLiteral k ++ ':' :: compactChars x ++ compactMembers ms
termination_by structural v => v

/-- The items after the first, and the closing bracket. -/
def compactItems : List Value → List Char
  | [] => [']']
  | x :: xs => ',' :: compactChars x ++ compactItems xs
termination_by structural xs => xs

/-- The members after the first, and the closing brace. -/
def compactMembers : List (String × Value) → List Char
  | [] => ['\x7d']
  | (k, x) :: ms => ',' :: stringLiteral k ++ ':' :: compactChars x ++ compactMembers ms
termination_by structural ms => ms

end

/-- The text without blanks. -/
def compact (v : Value) : String := .ofList v.compactChars

/-- A new line at a nesting level. -/
def newline (level : Nat) : List Char := '\n' :: List.replicate (2 * level) ' '

mutual

/-- The characters of the indented text. -/
def prettyChars (level : Nat) : Value → List Char
  | .null => nullText
  | .bool b => boolText b
  | .number n => n.render
  | .string s => stringLiteral s
  | .array [] => ['[', ']']
  | .array (x :: xs) =>
    '[' :: newline (level + 1) ++ prettyChars (level + 1) x ++ prettyItems level xs
  | .object [] => ['\x7b', '\x7d']
  | .object ((k, x) :: ms) =>
    '\x7b' :: newline (level + 1) ++ stringLiteral k ++ ':' :: ' ' :: prettyChars (level + 1) x ++
      prettyMembers level ms
termination_by structural v => v

def prettyItems (level : Nat) : List Value → List Char
  | [] => newline level ++ [']']
  | x :: xs => ',' :: newline (level + 1) ++ prettyChars (level + 1) x ++ prettyItems level xs
termination_by structural xs => xs

def prettyMembers (level : Nat) : List (String × Value) → List Char
  | [] => newline level ++ ['\x7d']
  | (k, x) :: ms =>
    ',' :: newline (level + 1) ++ stringLiteral k ++ ':' :: ' ' :: prettyChars (level + 1) x ++
      prettyMembers level ms
termination_by structural ms => ms

end

/-- The text with one item a line. -/
def pretty (v : Value) : String := .ofList (v.prettyChars 0)

end Value

end GardenAdmin.Json
