import Registrar.Yaml.Scalar

/-!
# YAML tokens

A YAML text is cut into tokens: the marks that are written, and the starts and ends of blocks
that follow from the indentation.

* `Token.list?`: the tokens of a text, or nothing when the text is malformed.
* `Layout`: what is known about the text before a place: how far the open blocks are indented,
  how many brackets are open, and where a key may have begun.

That something is a key is known only at the colon behind it.  A place where a key may have begun
is remembered as a `Layout.Candidate`, and at the colon the token for the key, and the start of
a block when the key is the first one of it, are put in at that place.
-/

namespace Registrar.Yaml

/-- A piece of a YAML text. -/
inductive Token where
  /-- The version that a document is written for. -/
  | version (major minor : Nat)
  /-- A short name for the beginning of tags. -/
  | tagName (handle start : String)
  /-- Three hyphens. -/
  | documentStart
  /-- Three points. -/
  | documentEnd
  /-- The first entry of a block of entries follows. -/
  | blockSequenceStart
  /-- The first key of a block of keys follows. -/
  | blockMappingStart
  /-- A block ends. -/
  | blockEnd
  /-- An opening bracket. -/
  | flowSequenceStart
  /-- A closing bracket. -/
  | flowSequenceEnd
  /-- An opening brace. -/
  | flowMappingStart
  /-- A closing brace. -/
  | flowMappingEnd
  /-- The hyphen before an entry. -/
  | blockEntry
  /-- The comma between two entries. -/
  | flowEntry
  /-- A key follows. -/
  | key
  /-- The value of a key follows. -/
  | value
  /-- A reference to a node with a name. -/
  | alias (name : String)
  /-- The name of the node that follows. -/
  | anchor (name : String)
  /-- The tag of the node that follows. -/
  | tag (handle suffix : String)
  /-- A scalar. -/
  | scalar (text : String) (style : Style)
  deriving DecidableEq

/-- A place where a key may have begun. -/
structure Candidate where
  /-- The text is malformed if no key began here. -/
  required : Bool
  /-- The number of tokens before it. -/
  position : Nat
  /-- The cursor there. -/
  cursor : Cursor

/-- What is known at a place about the text before it. -/
structure Layout where
  /-- The place. -/
  cursor : Cursor
  /-- The tokens so far, last one first. -/
  tokens : List Token
  /-- The column of the innermost block; `-1` outside of every block. -/
  indent : Int
  /-- The columns of the blocks around it, innermost first. -/
  outer : List Int
  /-- For each open bracket, innermost first, and last for the text outside of brackets: where
  a key may have begun. -/
  candidates : List (Option Candidate)
  /-- A key may begin at the place. -/
  keyAllowed : Bool

namespace Layout

/-- What is known at the start of a text. -/
def start (text : List Char) : Layout := ⟨.start text, [], -1, [], [none], true⟩

/-- The place is inside brackets or braces. -/
def inFlow (l : Layout) : Bool := 1 < l.candidates.length

/-- One more token. -/
def emit (l : Layout) (t : Token) : Layout := { l with tokens := t :: l.tokens }

/-- One more token, put in behind the first `position` tokens. -/
def emitAt (l : Layout) (position : Nat) (t : Token) : Layout :=
  let later := l.tokens.length - position
  { l with tokens := l.tokens.take later ++ t :: l.tokens.drop later }

/-! ### Blocks -/

/-- The blocks that are indented beyond a column end. -/
def closeBlocks (l : Layout) (column : Int) : Layout :=
  if l.inFlow then l
  else
    let (closed, outer) := (l.indent :: l.outer).span (column < ·)
    match closed, outer with
    | [], _ => l
    | _, [] => l
    | _ :: _, indent :: outer =>
      { l with
        tokens := closed.map (fun _ => Token.blockEnd) ++ l.tokens
        indent := indent
        outer := outer }

/-- A block begins at a column, behind the first `position` tokens, unless the innermost block
is indented as far already. -/
def openBlock (l : Layout) (column position : Nat) (t : Token) : Layout :=
  if !l.inFlow && l.indent < column then
    { l.emitAt position t with indent := column, outer := l.indent :: l.outer }
  else l

/-! ### Candidates for keys -/

/-- The innermost candidate set. -/
def setCandidate (l : Layout) (c : Option Candidate) : Layout :=
  { l with candidates := c :: l.candidates.tail }

/-- No key can begin any more where one might have; this is refused if one had to. -/
def dropCandidate? (l : Layout) : Option Layout :=
  match l.candidates.head? with
  | some (some c) => if c.required then none else some (l.setCandidate none)
  | _ => some l

/-- A key may begin at the place, if keys are allowed there. -/
def noteCandidate? (l : Layout) : Option Layout :=
  if l.keyAllowed then do
    let required := !l.inFlow && l.indent == l.cursor.column
    let l' ← l.dropCandidate?
    some (l'.setCandidate (some ⟨required, l.tokens.length, l.cursor⟩))
  else some l

/-- The candidates that are too far back are dropped: a key ends on the line on which it begins,
and within 1024 characters. -/
def dropStale? (l : Layout) : Option Layout := do
  let kept ← l.candidates.mapM fun candidate =>
    match candidate with
    | none => some none
    | some c =>
      if c.cursor.line < l.cursor.line ∨ c.cursor.index + 1024 < l.cursor.index then
        if c.required then none else some none
      else some (some c)
  some { l with candidates := kept }

/-! ### The way to the next token -/

/-- The place of the next token, behind blanks and comments.  A new line outside of brackets
allows a key; where a key is allowed there, a tab is no blank. -/
def toNext : Nat → Layout → Layout
  | 0, l => l
  | fuel + 1, l =>
    -- a byte order mark may stand at the very start of a text
    let c := if l.cursor.index = 0 ∧ l.cursor.looksAt '\ufeff' 0 then l.cursor.skip else l.cursor
    let tabs := l.inFlow || !l.keyAllowed
    let c := (c.skipWhile fun ch => ch = ' ' || (tabs && ch = '\t')).skipComment
    if c.peek?.any isBreak then
      toNext fuel { l with cursor := c.takeBreak.2, keyAllowed := !l.inFlow || l.keyAllowed }
    else { l with cursor := c }

/-! ### Marks -/

/-- A token of a few characters at the place, after which a key may or may not begin. -/
def mark (l : Layout) (width : Nat) (keyAllowed : Bool) (t : Token) : Layout :=
  { l.emit t with cursor := l.cursor.skipMany width, keyAllowed := keyAllowed }

/-- The marker that starts or ends a document. -/
def documentMarker? (l : Layout) (t : Token) : Option Layout := do
  let l ← (l.closeBlocks (-1)).dropCandidate?
  some (l.mark 3 false t)

/-- An opening bracket or brace. -/
def openFlow? (l : Layout) (t : Token) : Option Layout := do
  let l ← l.noteCandidate?
  some ({ l with candidates := none :: l.candidates }.mark 1 true t)

/-- A closing bracket or brace. -/
def closeFlow? (l : Layout) (t : Token) : Option Layout := do
  let l ← l.dropCandidate?
  let candidates := if l.inFlow then l.candidates.tail else l.candidates
  some ({ l with candidates := candidates }.mark 1 false t)

/-- A comma. -/
def flowEntry? (l : Layout) : Option Layout := do
  let l ← l.dropCandidate?
  some (l.mark 1 true .flowEntry)

/-- The hyphen before an entry of a block. -/
def blockEntry? (l : Layout) : Option Layout :=
  if !l.inFlow && !l.keyAllowed then none
  else do
    let l ← (l.openBlock l.cursor.column l.tokens.length .blockSequenceStart).dropCandidate?
    some (l.mark 1 true .blockEntry)

/-- The question mark before a key. -/
def key? (l : Layout) : Option Layout :=
  if !l.inFlow && !l.keyAllowed then none
  else do
    let l ← (l.openBlock l.cursor.column l.tokens.length .blockMappingStart).dropCandidate?
    some (l.mark 1 (!l.inFlow) .key)

/-- The colon before a value.  If a key may have begun, it did. -/
def value? (l : Layout) : Option Layout :=
  match l.candidates.head? with
  | some (some c) =>
    -- the block, if one begins, goes before the key
    let l := (l.emitAt c.position .key).openBlock c.cursor.column c.position .blockMappingStart
    some ((l.setCandidate none).mark 1 false .value)
  | _ =>
    if !l.inFlow && !l.keyAllowed then none
    else
      let l := l.openBlock l.cursor.column l.tokens.length .blockMappingStart
      some (l.mark 1 (!l.inFlow) .value)

/-! ### Directives -/

/-- A decimal number of at most nine digits. -/
def directiveNumber? (c : Cursor) : Option (Nat × Cursor) := do
  let (digits, c) := c.takeWhile Char.isDigit
  if digits.length ≤ 9 then (Text.digits? digits).map (·, c) else none

/-- The handle of a tag: an exclamation mark, or a word between two of them.  Text that turns
out to be no handle is given as far as it has been read. -/
def tagHandle? (c : Cursor) : Option (List Char × Cursor) :=
  if c.looksAt '!' 0 then
    let (word, c) := c.skip.takeWhile isWordChar
    if c.looksAt '!' 0 then some ('!' :: word ++ ['!'], c.skip) else some ('!' :: word, c)
  else none

/-- The character may stand in a tag; in a tag between angle brackets some more may. -/
def isTagChar (verbatim : Bool) (c : Char) : Bool :=
  isWordChar c || ";/?:@&=+$.%!~*'()".toList.contains c ||
    (verbatim && (c = ',' || c = '[' || c = ']'))

/-- The bytes that escapes of two hexadecimal digits stand for, and other characters as their
own bytes. -/
def tagBytes? : List Char → Option (List UInt8)
  | [] => some []
  | '%' :: a :: b :: cs => do
    let n ← Json.Token.hex? [a, b]
    let bytes ← tagBytes? cs
    some (.ofNat n :: bytes)
  | c :: cs =>
    if c = '%' then none else (tagBytes? cs).map ((String.singleton c).toUTF8.toList ++ ·)

/-- The text of a tag, its escapes replaced. -/
def tagText? (cs : List Char) : Option String := do
  let bytes ← tagBytes? cs
  String.fromUTF8? ⟨bytes.toArray⟩

/-- A directive at the place: the version of YAML, or a short name for tags. -/
def directive? (l : Layout) : Option Layout := do
  let l ← (l.closeBlocks (-1)).dropCandidate?
  let (name, c) := l.cursor.skip.takeWhile isWordChar
  if name.isEmpty || !c.endsWordAt 0 then none
  let c := c.skipWhile isSpace
  let (t, c) ←
    if name = "YAML".toList then do
      let (major, c) ← directiveNumber? c
      if !c.looksAt '.' 0 then none
      let (minor, c) ← directiveNumber? c.skip
      some (Token.version major minor, c)
    else if name = "TAG".toList then do
      let (handle, c) ← tagHandle? c
      if handle ≠ ['!'] ∧ handle.getLast? ≠ some '!' then none
      if !c.peek?.any isSpace then none
      let (start, c) := (c.skipWhile isSpace).takeWhile (isTagChar true)
      if start.isEmpty || !c.endsWordAt 0 then none
      let start ← tagText? start
      some (Token.tagName (.ofList handle) start, c)
    else none
  let c := (c.skipWhile isSpace).skipComment
  if !c.endsLineAt 0 then none
  some { l.emit t with cursor := c.takeBreak.2, keyAllowed := false }

/-! ### Names and tags of nodes -/

/-- The name of a node, or a reference to one. -/
def name? (l : Layout) (t : String → Token) : Option Layout := do
  let l ← l.noteCandidate?
  let (name, c) := l.cursor.skip.takeWhile isWordChar
  let ended := c.endsWordAt 0 || c.peek?.any ("?:,]\x7d%@\x60".toList.contains ·)
  if name.isEmpty || !ended then none
  else some { l.emit (t (.ofList name)) with cursor := c, keyAllowed := false }

/-- The tag at a cursor. -/
def scanTag? (c : Cursor) : Option (Token × Cursor) :=
  if c.looksAt '<' 1 then do
    let (text, c) := (c.skipMany 2).takeWhile (isTagChar true)
    if text.isEmpty || !c.looksAt '>' 0 then none
    let text ← tagText? text
    some (.tag "" text, c.skip)
  else do
    let (handle, c) ← tagHandle? c
    if 2 ≤ handle.length ∧ handle.getLast? = some '!' then do
      let (text, c) := c.takeWhile (isTagChar false)
      if text.isEmpty then none
      let text ← tagText? text
      some (.tag (.ofList handle) text, c)
    else do
      -- what looked like the start of a handle is the start of the tag itself
      let (text, c) := c.takeWhile (isTagChar false)
      let text ← tagText? (handle.tail ++ text)
      some (if text.isEmpty then .tag "" "!" else .tag "!" text, c)

/-- The tag of a node. -/
def tag? (l : Layout) : Option Layout := do
  let l ← l.noteCandidate?
  let (t, c) ← scanTag? l.cursor
  if c.endsWordAt 0 || (l.inFlow && c.looksAt ',' 0) then
    some { l.emit t with cursor := c, keyAllowed := false }
  else none

/-! ### Scalars -/

/-- A scalar in quotes. -/
def quotedScalar? (l : Layout) (single : Bool) : Option Layout := do
  let l ← l.noteCandidate?
  let (text, c) ← quoted? single l.cursor
  some { l.emit (.scalar (.ofList text) .quoted) with cursor := c, keyAllowed := false }

/-- A scalar as a block. -/
def blockScalar? (l : Layout) (folded : Bool) : Option Layout := do
  let l ← l.dropCandidate?
  let (text, c) ← block? folded l.indent l.cursor
  let style := if folded then Style.folded else .literal
  some { l.emit (.scalar (.ofList text) style) with cursor := c, keyAllowed := true }

/-- A scalar without quotes.  A key may follow if it was the last thing on its line. -/
def plainScalar? (l : Layout) : Option Layout := do
  let l ← l.noteCandidate?
  let (text, broken, c) ← plain? l.inFlow (l.indent + 1).toNat l.cursor
  some { l.emit (.scalar (.ofList text) .plain) with cursor := c, keyAllowed := broken }

/-- The character begins a token of its own, or none. -/
def isIndicator (c : Char) : Bool := "-?:,[]\x7b\x7d#&*!|>'\"%@\x60".toList.contains c

/-- A plain scalar begins at the cursor: with a character that is no indicator, or with a
hyphen, a question mark or a colon that no blank follows. -/
def startsPlain (c : Cursor) (flow : Bool) (ch : Char) : Bool :=
  !(isIndicator ch || isSpace ch || isBreak ch) ||
    (ch = '-' && !(c.peekAt? 1).any isSpace) ||
    (!flow && (ch = '?' || ch = ':') && !c.endsWordAt 1)

/-! ### One token after the other -/

/-- What is known after the next token at the place, which is not the end of the text. -/
def next? (l : Layout) (ch : Char) : Option Layout :=
  let c := l.cursor
  let wordEnds := c.endsWordAt 1
  if ch = '%' ∧ c.column = 0 then l.directive?
  else if c.atMarker '-' then l.documentMarker? .documentStart
  else if c.atMarker '.' then l.documentMarker? .documentEnd
  else if ch = '[' then l.openFlow? .flowSequenceStart
  else if ch = '\x7b' then l.openFlow? .flowMappingStart
  else if ch = ']' then l.closeFlow? .flowSequenceEnd
  else if ch = '\x7d' then l.closeFlow? .flowMappingEnd
  else if ch = ',' then l.flowEntry?
  else if ch = '-' ∧ wordEnds then l.blockEntry?
  else if ch = '?' ∧ (l.inFlow ∨ wordEnds) then l.key?
  else if ch = ':' ∧ (l.inFlow ∨ wordEnds) then l.value?
  else if ch = '*' then l.name? .alias
  else if ch = '&' then l.name? .anchor
  else if ch = '!' then l.tag?
  else if ch = '|' ∧ !l.inFlow then l.blockScalar? false
  else if ch = '>' ∧ !l.inFlow then l.blockScalar? true
  else if ch = '\'' then l.quotedScalar? true
  else if ch = '"' then l.quotedScalar? false
  else if startsPlain c l.inFlow ch then l.plainScalar?
  else none

/-- The tokens of the whole text, from what is known at a place. -/
def run? : Nat → Layout → Option (List Token)
  | 0, _ => none
  | fuel + 1, l => do
    let l ← (l.toNext (l.cursor.rest.length + 1)).dropStale?
    let l := l.closeBlocks l.cursor.column
    match l.cursor.peek? with
    | none =>
      let l ← (l.closeBlocks (-1)).dropCandidate?
      some l.tokens.reverse
    | some ch => (l.next? ch).bind (run? fuel)

end Layout

/-- The tokens of a text. -/
def Token.list? (text : List Char) : Option (List Token) :=
  if text.all isAllowed then Layout.run? (text.length + 1) (.start text) else none

end Registrar.Yaml
