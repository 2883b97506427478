import Registrar.Markup
import Registrar.Text.Numeral
import Registrar.Yaml.Node

/-!
# YAML as a file format

Any scalar is a text, as it is written.  A number must be written without quotes, in decimal,
or in hexadecimal, octal or binary with its mark in front; a decimal one with zeros in front is
no number.  A value that is not written at all stands for nothing, and for an empty list or map;
`null` and `~` stand for nothing, but not for a list or a map.
-/

namespace Registrar.Yaml

/-- A node together with the document in which it stands. -/
structure Place where
  /-- The document. -/
  document : Document
  /-- The node. -/
  node : Node

namespace Place

/-- The node at a place, references replaced by what they stand for. -/
def resolved (p : Place) : Node := p.document.resolve p.node

/-- The text is written for nothing. -/
def isNullWord (s : String) : Bool := s = "null" || s = "Null" || s = "NULL" || s = "~"

/-- The value of one or more digits in a base. -/
def digitsIn? (base : Nat) (cs : List Char) : Option Nat :=
  if cs = [] then none
  else cs.foldlM (fun n c => do
    let d ← Json.Token.hexDigit? c
    if d < base then some (n * base + d) else none) 0

/-- The base that the mark in front of a number stands for. -/
def marks : List (List Char × Nat) := [(['0', 'x'], 16), (['0', 'o'], 8), (['0', 'b'], 2)]

/-- The value of digits with the mark of a base in front. -/
def marked? (cs : List Char) : Option Nat :=
  marks.findSome? fun (mark, base) =>
    if mark.isPrefixOf cs then digitsIn? base (cs.drop mark.length) else none

/-- The value of decimal digits without needless zeros in front. -/
def decimal? (cs : List Char) : Option Nat :=
  if 1 < cs.length ∧ cs.head? = some '0' then none else digitsIn? 10 cs

/-- The whole number without a minus sign that a text is written for. -/
def unsigned? : List Char → Option Nat
  | '+' :: cs => marked? cs <|> decimal? cs
  | cs => marked? cs <|> decimal? cs

/-- The whole number that a text is written for. -/
def signed? : List Char → Option Int
  | '-' :: cs => (marked? cs <|> decimal? cs).map fun n => -Int.ofNat n
  | cs => (unsigned? cs).map Int.ofNat

/-- The characters of a number at a place: written without quotes, or as a block with the tag of
whole numbers. -/
def numeral? (p : Place) : Option (List Char) :=
  match p.resolved with
  | .scalar text style tag =>
    if style = .plain ∨ (style = .literal ∧ tag = some "tag:yaml.org,2002:int") then
      some text.toList
    else none
  | _ => none

/-- The text at a place. -/
def text? (p : Place) : Option String :=
  match p.resolved with
  | .scalar text _ _ => some text
  | _ => none

/-- One of several fixed words: a text, or the name of a tag whose node stands for nothing. -/
def choice? (p : Place) : Option String :=
  match p.resolved with
  | .scalar text style (some tag) =>
    if tag.startsWith "!" then
      if style = .plain ∧ (text = "" ∨ isNullWord text) then some (tag.drop 1).toString else none
    else some text
  | .scalar text _ none => some text
  | _ => none

/-- The place, unless it stands for nothing. -/
def optional? (p : Place) : Option (Option Place) :=
  match p.resolved with
  | .scalar text .plain none => some (if text = "" ∨ isNullWord text then none else some p)
  | .scalar text .plain (some tag) =>
    if tag = "tag:yaml.org,2002:null" then if isNullWord text then some none else none
    else some (some p)
  | _ => some (some p)

/-- The places in a row. -/
def items? (p : Place) : Option (List Place) :=
  match p.resolved with
  | .sequence items => some (items.map (⟨p.document, ·⟩))
  | .scalar "" .plain _ => some []
  | _ => none

/-- The places with names. -/
def entries? (p : Place) : Option (List (String × Place)) :=
  match p.resolved with
  | .mapping fields => fields.mapM fun (k, v) =>
    (text? ⟨p.document, k⟩).map (·, ⟨p.document, v⟩)
  | .scalar "" .plain _ => some []
  | _ => none

/-- The fields of a record. -/
def record? (names : List String) (p : Place) : Option (List (String × Place)) := do
  let fields ← p.entries?
  if Markup.wellNamed names fields then some fields else none

instance : Markup Place where
  text? := text?
  word32? p := (p.numeral?.bind unsigned?).bind fun n => Text.word32OfInt? n
  int64? p := (p.numeral?.bind signed?).bind Text.int64OfInt?
  choice? := choice?
  optional? := optional?
  items? := items?
  entries? := entries?
  record? := record?

end Place

namespace Document

/-- The number of references that are followed when a node is read, down to a depth. -/
def followed (d : Document) : Nat → Node → Nat
  | 0, _ => 0
  | depth + 1, n =>
    let here := match n with
      | .alias _ => 1
      | _ => 0
    match d.resolve n with
    | .sequence items => here + (items.map (followed d depth)).sum
    | .mapping fields =>
      here + (fields.map fun f => followed d depth f.1 + followed d depth f.2).sum
    | _ => here

/-- The depth of the files that are read: a record in a record that holds maps. -/
def depth : Nat := 6

/-- What a reader makes of the document that a text holds.  A document whose references would be
followed more than a hundred times for each of its parts is refused. -/
def decode? {α : Type} (read : Place → Option α) (text : String) : Option α := do
  let d ← read? text
  let a ← read ⟨d, d.root⟩
  if d.followed depth d.root ≤ 100 * d.parts then some a else none

end Document

end Registrar.Yaml
