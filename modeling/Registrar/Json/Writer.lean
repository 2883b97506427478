import Registrar.Json.Basic

/-!
# Writing JSON

* `Json.compact`: a value in one line, without blanks.
* `Json.pretty`: a value with one item or field per line, indented by two spaces; empty arrays
  and objects stay closed.

In a text, quotes, backslashes and control characters below U+0020 are escaped and nothing
else is.
-/

namespace Registrar.Json

/-- The hexadecimal digit of a number below sixteen, in lower case. -/
def hexDigit (n : Nat) : Char := Char.ofNat (if n < 10 then '0'.toNat + n else 'a'.toNat + (n - 10))

/-- How a character is written inside quotes. -/
def escape (c : Char) : List Char :=
  if c = '"' then ['\\', '"']
  else if c = '\\' then ['\\', '\\']
  else if c = '\x08' then ['\\', 'b']
  else if c = '\x0c' then ['\\', 'f']
  else if c = '\n' then ['\\', 'n']
  else if c = '\r' then ['\\', 'r']
  else if c = '\t' then ['\\', 't']
  else if c.toNat < 0x20 then
    ['\\', 'u', '0', '0', hexDigit (c.toNat / 16), hexDigit (c.toNat % 16)]
  else [c]

/-- A text in quotes. -/
def quote (s : String) : List Char := '"' :: s.toList.flatMap escape ++ ['"']

/-- How a value that holds no others is written. -/
def scalar : Json → List Char
  | null => ['n', 'u', 'l', 'l']
  | bool true => ['t', 'r', 'u', 'e']
  | bool false => ['f', 'a', 'l', 's', 'e']
  | number n => n.text.toList
  | string s => quote s
  | array _ => ['[', ']']
  | object _ => ['{', '}']

mutual

/-- The characters of a value in one line. -/
def compactChars : Json → List Char
  | array items => '[' :: compactItems items ++ [']']
  | object fields => '{' :: compactFields fields ++ ['}']
  | value => scalar value

/-- The items of an array, with commas between them. -/
def compactItems : List Json → List Char
  | [] => []
  | [v] => compactChars v
  | v :: vs => compactChars v ++ ',' :: compactItems vs

/-- The fields of an object, with commas between them. -/
def compactFields : List (String × Json) → List Char
  | [] => []
  | [(n, v)] => quote n ++ ':' :: compactChars v
  | (n, v) :: fs => quote n ++ ':' :: compactChars v ++ ',' :: compactFields fs

end

/-- The value in one line. -/
def compact (v : Json) : String := .ofList v.compactChars

/-- The start of a line at a nesting depth. -/
def newLine (depth : Nat) : List Char := '\n' :: List.replicate (2 * depth) ' '

mutual

/-- The characters of a value whose lines are indented by its depth. -/
def prettyChars (depth : Nat) : Json → List Char
  | array [] => ['[', ']']
  | object [] => ['{', '}']
  | array items => '[' :: prettyItems (depth + 1) items ++ newLine depth ++ [']']
  | object fields => '{' :: prettyFields (depth + 1) fields ++ newLine depth ++ ['}']
  | value => scalar value

/-- The items of an array, one per line. -/
def prettyItems (depth : Nat) : List Json → List Char
  | [] => []
  | [v] => newLine depth ++ prettyChars depth v
  | v :: vs => newLine depth ++ prettyChars depth v ++ ',' :: prettyItems depth vs

/-- The fields of an object, one per line. -/
def prettyFields (depth : Nat) : List (String × Json) → List Char
  | [] => []
  | [(n, v)] => newLine depth ++ quote n ++ ':' :: ' ' :: prettyChars depth v
  | (n, v) :: fs =>
    newLine depth ++ quote n ++ ':' :: ' ' :: prettyChars depth v ++ ',' :: prettyFields depth fs

end

/-- The value with one item or field per line. -/
def pretty (v : Json) : String := .ofList (v.prettyChars 0)

end Registrar.Json
