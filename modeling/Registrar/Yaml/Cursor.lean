/-!
# Places in a YAML text

A `Cursor` stands somewhere in a text and knows its line and column there, because the layout of
a YAML document carries meaning.  The module also fixes YAML's character classes, which differ
from those of other texts: five characters end a line, and only spaces and tabs separate words
within one.
-/

namespace Registrar.Yaml

/-- The character ends a line. -/
def isBreak (c : Char) : Bool :=
  c = '\n' || c = '\r' || c = '\u0085' || c = '\u2028' || c = '\u2029'

/-- The character separates words within a line. -/
def isSpace (c : Char) : Bool := c = ' ' || c = '\t'

/-- The character may stand in a name: a letter, a digit, an underscore or a hyphen. -/
def isWordChar (c : Char) : Bool :=
  c.isAlphanum || c = '_' || c = '-'

/-- The character may stand in a YAML text. -/
def isAllowed (c : Char) : Bool :=
  let n := c.toNat
  n = 9 || n = 10 || n = 13 || (0x20 ≤ n && n ≤ 0x7E) || n = 0x85 || (0xA0 ≤ n && n ≤ 0xD7FF) ||
    (0xE000 ≤ n && n ≤ 0xFFFD) || 0x10000 ≤ n

/-- A place in a text. -/
structure Cursor where
  /-- What follows the place. -/
  rest : List Char
  /-- The number of characters before the place. -/
  index : Nat
  /-- The number of line ends before the place. -/
  line : Nat
  /-- The number of characters between the start of the line and the place. -/
  column : Nat

namespace Cursor

/-- The start of a text. -/
def start (text : List Char) : Cursor := ⟨text, 0, 0, 0⟩

/-- The character at the place. -/
def peek? (c : Cursor) : Option Char := c.rest.head?

/-- The character at a distance from the place. -/
def peekAt? (c : Cursor) (k : Nat) : Option Char := c.rest[k]?

/-- The character at a distance is the given one. -/
def looksAt (c : Cursor) (ch : Char) (k : Nat) : Bool := c.peekAt? k == some ch

/-- The text ends at a distance from the place, or a line ends there. -/
def endsLineAt (c : Cursor) (k : Nat) : Bool := (c.peekAt? k).all isBreak

/-- A word ends at a distance from the place: by a space, a line end or the end of the text. -/
def endsWordAt (c : Cursor) (k : Nat) : Bool :=
  (c.peekAt? k).all fun ch => isBreak ch || isSpace ch

/-- The place one character further on the same line. -/
def skip (c : Cursor) : Cursor :=
  match c.rest with
  | [] => c
  | _ :: rest => ⟨rest, c.index + 1, c.line, c.column + 1⟩

/-- The place `k` characters further on the same line. -/
def skipMany (c : Cursor) : Nat → Cursor
  | 0 => c
  | k + 1 => c.skip.skipMany k

/-- The place after the line end at the place, and how that line end is kept in a text that goes
on over several lines. -/
def takeBreak (c : Cursor) : List Char × Cursor :=
  match c.rest with
  | '\r' :: '\n' :: rest => (['\n'], ⟨rest, c.index + 2, c.line + 1, 0⟩)
  | ch :: rest =>
    if isBreak ch then
      ([if ch = '\u2028' ∨ ch = '\u2029' then ch else '\n'], ⟨rest, c.index + 1, c.line + 1, 0⟩)
    else ([], c)
  | [] => ([], c)

/-- The place after the longest run of characters of a class, and the run.  The class must hold
no line end. -/
def takeWhile (p : Char → Bool) (c : Cursor) : List Char × Cursor :=
  let run := c.rest.takeWhile p
  (run, ⟨c.rest.dropWhile p, c.index + run.length, c.line, c.column + run.length⟩)

/-- The place after the longest run of characters of a class that holds no line end. -/
def skipWhile (p : Char → Bool) (c : Cursor) : Cursor := (c.takeWhile p).2

/-- The place after a comment that runs to the end of the line, if there is one. -/
def skipComment (c : Cursor) : Cursor :=
  if c.looksAt '#' 0 then c.skipWhile (!isBreak ·) else c

/-- A line that starts with three hyphens, or three points, as a word of their own. -/
def atMarker (c : Cursor) (ch : Char) : Bool :=
  c.column = 0 && c.looksAt ch 0 && c.looksAt ch 1 && c.looksAt ch 2 && c.endsWordAt 3

/-- A line that starts or ends a document. -/
def atDocumentMarker (c : Cursor) : Bool := c.atMarker '-' || c.atMarker '.'

end Cursor

end Registrar.Yaml
