import Registrar.Json.Token
import Registrar.Yaml.Cursor

/-!
# YAML scalars

The texts of a YAML document in their four written forms: plain, in single quotes, in double
quotes, and as an indented block.  Each reader starts at a cursor and gives the text and the
cursor behind it.

A text may run over several lines.  `Gap` is what lies between two of its words: spaces that are
kept, or line ends of which a single one becomes a space.
-/

namespace Registrar.Yaml

/-- How a scalar is written. -/
inductive Style where
  /-- Without quotes. -/
  | plain
  /-- In quotes of either kind. -/
  | quoted
  /-- As a block whose line ends are kept. -/
  | literal
  /-- As a block whose lines are joined. -/
  | folded
  deriving DecidableEq

/-- What lies between two words of a scalar. -/
structure Gap where
  /-- The spaces before the first line end. -/
  spaces : List Char
  /-- The line ends, as they are kept. -/
  breaks : List (List Char)

namespace Gap

/-- Nothing. -/
def none : Gap := ⟨[], []⟩

/-- The text that the gap stands for: its spaces if it has no line end; otherwise its line ends
without the first one, or a space if there was only one. -/
def text (g : Gap) : List Char :=
  match g.breaks with
  | [] => g.spaces
  | ['\n'] :: [] => [' ']
  | ['\n'] :: more => more.flatten
  | all => all.flatten

/-- The gap at a cursor, added to what has been read of it.  A tab to the left of the column
`indent` on a further line is refused. -/
def read? (indent : Nat) : Nat → Gap → Cursor → Option (Gap × Cursor)
  | 0, _, _ => .none
  | fuel + 1, g, c =>
    match c.peek? with
    | .none => some (g, c)
    | some ch =>
      if isSpace ch then
        if g.breaks.isEmpty then read? indent fuel { g with spaces := g.spaces ++ [ch] } c.skip
        else if ch = '\t' ∧ c.column < indent then .none
        else read? indent fuel g c.skip
      else if isBreak ch then
        let (b, c) := c.takeBreak
        read? indent fuel ⟨[], g.breaks ++ [b]⟩ c
      else some (g, c)

end Gap

/-! ### Plain scalars -/

/-- The character ends a plain scalar inside brackets or braces. -/
def endsFlowPlain (c : Char) : Bool := c = ',' || c = '[' || c = ']' || c = '{' || c = '}'

/-- The run of characters of a plain scalar at a cursor, up to a blank or what ends the scalar.
Inside brackets a colon directly before a bracket, a brace, a comma or a question mark is
refused. -/
def plainRun? (flow : Bool) (acc : List Char) : List Char → Option (List Char)
  | [] => some acc.reverse
  | ch :: cs =>
    if isBreak ch || isSpace ch then some acc.reverse
    else if flow && ch = ':' && cs.head?.any (fun d => endsFlowPlain d || d = '?') then none
    else if ch = ':' && cs.head?.all (fun d => isBreak d || isSpace d) then some acc.reverse
    else if flow && endsFlowPlain ch then some acc.reverse
    else plainRun? flow (ch :: acc) cs

/-- A plain scalar: its text, the cursor behind it and the gap after it, and whether that gap
had a line end.  Outside of brackets it ends at a line that is not indented beyond `indent`. -/
def plainFrom? (flow : Bool) (indent : Nat) :
    Nat → List Char → Gap → Cursor → Option (List Char × Bool × Cursor)
  | 0, _, _, _ => none
  | fuel + 1, acc, gap, c =>
    if c.atDocumentMarker || c.looksAt '#' 0 then some (acc, !gap.breaks.isEmpty, c)
    else do
      -- the gap becomes part of the text only when a further word follows it
      let run ← plainRun? flow [] c.rest
      let acc := if run.isEmpty then acc else acc ++ gap.text ++ run
      let gap := if run.isEmpty then gap else Gap.none
      let c := c.skipMany run.length
      if c.peek?.all fun ch => !(isSpace ch || isBreak ch) then some (acc, !gap.breaks.isEmpty, c)
      else do
        let (gap, c) ← gap.read? indent (c.rest.length + 1) c
        if !flow && c.column < indent then some (acc, !gap.breaks.isEmpty, c)
        else plainFrom? flow indent fuel acc gap c

/-- The plain scalar at a cursor. -/
def plain? (flow : Bool) (indent : Nat) (c : Cursor) : Option (List Char × Bool × Cursor) :=
  plainFrom? flow indent (c.rest.length + 1) [] Gap.none c

/-! ### Scalars in quotes -/

/-- The character that an escape of one character stands for in double quotes. -/
def escape? : Char → Option Char
  | '0' => some '\x00'
  | 'a' => some '\x07'
  | 'b' => some '\x08'
  | 't' | '\t' => some '\t'
  | 'n' => some '\n'
  | 'v' => some '\x0b'
  | 'f' => some '\x0c'
  | 'r' => some '\r'
  | 'e' => some '\x1b'
  | ' ' => some ' '
  | '"' => some '"'
  | '/' => some '/'
  | '\\' => some '\\'
  | 'N' => some '\u0085'
  | '_' => some '\u00a0'
  | 'L' => some '\u2028'
  | 'P' => some '\u2029'
  | _ => none

/-- The number of hexadecimal digits after an escape that is written with digits. -/
def escapeDigits? : Char → Option Nat
  | 'x' => some 2
  | 'u' => some 4
  | 'U' => some 8
  | _ => none

/-- The character that hexadecimal digits stand for, unless it is half of a surrogate pair or
too large. -/
def hexChar? (digits : List Char) : Option Char := do
  let n ← Json.Token.hex? digits
  if n < 0xD800 ∨ (0xDFFF < n ∧ n ≤ 0x10FFFF) then some (Char.ofNat n) else none

/-- The run of characters of a quoted scalar, up to a blank or the closing quote: its text, the
cursor behind it, and whether it ended with an escaped line end. -/
def quotedRun? (single : Bool) : Nat → List Char → Cursor → Option (List Char × Bool × Cursor)
  | 0, _, _ => none
  | fuel + 1, acc, c =>
    match c.rest with
    | [] => some (acc.reverse, false, c)
    | ch :: cs =>
      if isBreak ch || isSpace ch then some (acc.reverse, false, c)
      else if single then
        if ch = '\'' then
          if cs.head? = some '\'' then quotedRun? single fuel ('\'' :: acc) (c.skipMany 2)
          else some (acc.reverse, false, c)
        else quotedRun? single fuel (ch :: acc) c.skip
      else if ch = '"' then some (acc.reverse, false, c)
      else if ch = '\\' then
        match cs with
        | [] => none
        | e :: digits =>
          if isBreak e then some (acc.reverse, true, c.skip.takeBreak.2)
          else match escape? e, escapeDigits? e with
            | some plain, _ => quotedRun? single fuel (plain :: acc) (c.skipMany 2)
            | none, some k =>
              if digits.length < k then none
              else (hexChar? (digits.take k)).bind fun x =>
                quotedRun? single fuel (x :: acc) (c.skipMany (2 + k))
            | none, none => none
      else quotedRun? single fuel (ch :: acc) c.skip

/-- The rest of a quoted scalar after the characters `acc`, and the cursor behind its closing
quote. -/
def quotedFrom? (single : Bool) : Nat → List Char → Cursor → Option (List Char × Cursor)
  | 0, _, _ => none
  | fuel + 1, acc, c =>
    if c.atDocumentMarker || c.rest.isEmpty then none
    else do
      let (run, escaped, c) ← quotedRun? single (c.rest.length + 1) [] c
      let acc := acc ++ run
      if !escaped && c.looksAt (if single then '\'' else '"') 0 then some (acc, c.skip)
      else
        -- an escaped line end joins two lines without a space
        let gap : Gap := if escaped then ⟨[], [[]]⟩ else Gap.none
        let (gap, c) ← gap.read? 0 (c.rest.length + 1) c
        quotedFrom? single fuel (acc ++ gap.text) c

/-- The quoted scalar at a cursor, which stands at its opening quote. -/
def quoted? (single : Bool) (c : Cursor) : Option (List Char × Cursor) :=
  quotedFrom? single (c.rest.length + 1) [] c.skip

/-! ### Scalars as blocks -/

/-- What happens to the line ends at the end of a block. -/
inductive Chomping where
  /-- All are dropped. -/
  | strip
  /-- One is kept. -/
  | clip
  /-- All are kept. -/
  | keep
  deriving DecidableEq

/-- The head of a block: what happens to its last line ends, its indentation if it is given, and
the cursor at the first line. -/
def blockHead? (c : Cursor) : Option (Chomping × Option Nat × Cursor) := do
  let chomping (c : Cursor) : Option Chomping :=
    match c.peek? with
    | some '+' => some .keep
    | some '-' => some .strip
    | _ => none
  let digit (c : Cursor) : Option (Option Nat × Cursor) :=
    match c.peek? with
    | some d =>
      if d = '0' then none
      else if d.isDigit then some (some (d.toNat - '0'.toNat), c.skip)
      else some (none, c)
    | none => some (none, c)
  let (mode, width, c) ← match chomping c with
    | some mode => do
      let (width, c) ← digit c.skip
      some (mode, width, c)
    | none => do
      let (width, c) ← digit c
      match width, chomping c with
      | some _, some mode => some (mode, width, c.skip)
      | _, _ => some (.clip, width, c)
  let c := (c.skipWhile isSpace).skipComment
  if c.rest.isEmpty then some (mode, width, c)
  else if c.endsLineAt 0 then some (mode, width, c.takeBreak.2)
  else none

/-- The empty lines at a cursor: their line ends and the cursor at the text of the next line,
which is indented by `indent` columns, or by any number if that is not known.  The greatest
indentation met is given as well. -/
def emptyLines? (indent : Option Nat) :
    Nat → List Char → Nat → Cursor → Option (List Char × Nat × Cursor)
  | 0, _, _, _ => none
  | fuel + 1, breaks, widest, c =>
    let spaces := (c.rest.takeWhile (· = ' ')).length
    let c := c.skipMany (match indent with
      | some n => min spaces (n - c.column)
      | none => spaces)
    let widest := max widest c.column
    if indent.all (c.column < ·) && c.looksAt '\t' 0 then none
    else if c.peek?.any isBreak then
      let (b, c) := c.takeBreak
      emptyLines? indent fuel (breaks ++ b) widest c
    else some (breaks, widest, c)

/-- The lines of a block that is indented by `indent` columns.  `lead` is the last line end
before the cursor, `breaks` are the empty lines after it, and `blank` tells whether the line
before them began with a space. -/
def blockLines? (folded : Bool) (indent : Nat) : Nat → List Char → List Char → List Char → Bool →
    Cursor → Option (List Char × List Char × List Char × Cursor)
  | 0, _, _, _, _, _ => none
  | fuel + 1, acc, lead, breaks, blank, c =>
    if c.column = indent ∧ !c.rest.isEmpty then do
      let indented := c.peek?.any isSpace
      -- a single line end between two lines of words is a space when lines are joined
      let joint :=
        if folded && lead.head? = some '\n' && !blank && !indented then
          if breaks.isEmpty then [' '] else []
        else lead
      let (text, c) := c.takeWhile (!isBreak ·)
      let (lead, c) := c.takeBreak
      let acc := acc ++ joint ++ breaks ++ text
      let (breaks, _, c) ← emptyLines? (some indent) (c.rest.length + 1) [] 0 c
      blockLines? folded indent fuel acc lead breaks indented c
    else some (acc, lead, breaks, c)

/-- The block scalar at a cursor, which stands at its indicator.  `parent` is the column of the
surrounding block, or `-1` at the top. -/
def block? (folded : Bool) (parent : Int) (c : Cursor) : Option (List Char × Cursor) := do
  let (mode, width, c) ← blockHead? c.skip
  let given : Option Nat := width.map fun w => (max parent 0).toNat + w
  let (breaks, widest, c) ← emptyLines? given (c.rest.length + 1) [] 0 c
  -- without a number the lines are as far to the right as the first one that is not empty
  let indent := given.getD (max widest (max (parent + 1) 1).toNat)
  let (text, lead, breaks, c) ←
    blockLines? folded indent (c.rest.length + 1) [] [] breaks false c
  let ends := match mode with
    | .strip => []
    | .clip => lead
    | .keep => lead ++ breaks
  some (text ++ ends, c)

end Registrar.Yaml
