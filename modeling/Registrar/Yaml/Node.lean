import Registrar.Yaml.Token

/-!
# YAML documents

`Document.read?` reads a text that holds one document, or none at all.  A document is a tree of
scalars, sequences and mappings, in which a node may have a name and be referred to by it
elsewhere.

A reference stays in the tree as `Node.alias`; `Document.resolve` finds the node it stands for.
A name that is given again stands for the later node from there on.
-/

namespace Registrar.Yaml

/-- A part of a document. -/
inductive Node where
  /-- A text; the tag is given in full, unless the text has none. -/
  | scalar (text : String) (style : Style) (tag : Option String)
  /-- Nodes in a row. -/
  | sequence (items : List Node)
  /-- Pairs of nodes. -/
  | mapping (fields : List (Node × Node))
  /-- A reference, by number, to a node with a name. -/
  | alias (id : Nat)
  deriving Inhabited

/-- A scalar that is not written at all. -/
def Node.absent : Node := .scalar "" .plain none

/-- A tree with the nodes that references in it stand for. -/
structure Document where
  /-- The node at the top. -/
  root : Node
  /-- The nodes with names, by number, in the order in which they begin; the last one with a
  number counts. -/
  named : Array (Nat × Node)
  /-- The number of parts: scalars, references, and the starts and ends of other nodes. -/
  parts : Nat

/-! ### From tokens to nodes -/

/-- What is left of the tokens, and what is known from those before. -/
structure Composer where
  /-- The tokens that follow. -/
  tokens : List Token
  /-- The short names for tags, and what they stand for. -/
  tagNames : List (String × String)
  /-- The names that nodes have been given, with the numbers of the nodes. -/
  names : List (String × Nat)
  /-- The nodes with names, by number, in the order in which they begin. -/
  named : Array (Nat × Node)

/-- A step that reads some tokens, or finds that they make no sense. -/
abbrev Compose := StateT Composer Option

namespace Compose

/-- The next token, which is left where it is. -/
def peek : Compose (Option Token) := do return (← get).tokens.head?

/-- The next token is taken away. -/
def drop : Compose Unit := modify fun s => { s with tokens := s.tokens.tail }

/-- The next token is the given one, and is taken away. -/
def accept (t : Token) : Compose Bool := do
  if (← peek) = some t then
    drop
    return true
  else return false

/-- The next token must be the given one. -/
def expect (t : Token) : Compose Unit := do
  if !(← accept t) then failure

/-- A place among the nodes with names for one that begins here, under its number.  That is
the number of names given so far, whether or not the node's own is among them. -/
def reserve (name : String) : Compose Nat := do
  let s ← get
  let id := s.names.length
  set { s with
    names := (name, id) :: s.names.filter (·.1 ≠ name)
    named := s.named.push (id, .absent) }
  return s.named.size

/-- The node takes the place that was reserved for it, if it has a name. -/
def remember (place : Option Nat) (n : Node) : Compose Node := do
  match place with
  | some k => modify fun s => { s with named := s.named.modify k fun e => (e.1, n) }
  | none => pure ()
  return n

/-- The full text of a tag. -/
def fullTag (handle suffix : String) : Compose String := do
  if handle = "" then return suffix
  match (← get).tagNames.find? (·.1 = handle) with
  | some (_, start) => return start ++ suffix
  | none => failure

/-- The name of the node that follows, if it is given here. -/
def name : Compose (Option String) := do
  match ← peek with
  | some (.anchor n) =>
    drop
    return some n
  | _ => return none

/-- The tag of the node that follows, if it is given here. -/
def tag : Compose (Option (String × String)) := do
  match ← peek with
  | some (.tag handle suffix) =>
    drop
    return some (handle, suffix)
  | _ => return none

/-- The name and the tag before a node, in either order. -/
def properties : Compose (Option String × Option String) := do
  let first ← name
  let given ← tag
  let second ← if first.isNone && given.isSome then name else pure none
  let full ← given.mapM fun (handle, suffix) => fullTag handle suffix
  return (first <|> second, full)

/-- Where a node stands: what else than a node may stand there, so that the node is absent. -/
def absentBefore (ends : List Token) (node : Compose Node) : Compose Node := do
  match ← peek with
  | none => return .absent
  | some t => if ends.contains t then return .absent else node

/-- The node at a place where nothing that makes a node follows: absent, if it has a name or a
tag. -/
def empty (named : Bool) (tag : Option String) : Compose Node :=
  if named || tag.isSome then return .scalar "" .plain tag else failure

mutual

/-- A node.  In brackets no blocks may stand; as a key or a value, a sequence may be a block
that is not indented. -/
def node (block bare : Bool) : Nat → Compose Node
  | 0 => failure
  | fuel + 1 => do
    match ← peek with
    | some (.alias name) =>
      match (← get).names.find? (·.1 = name) with
      | some (_, id) =>
        drop
        return .alias id
      | none => failure
    | _ =>
      let (name, tag) ← properties
      let place ← name.mapM reserve
      remember place (← content block bare place.isSome tag fuel)

/-- What follows the name and the tag of a node. -/
def content (block bare named : Bool) (tag : Option String) : Nat → Compose Node
  | 0 => failure
  | fuel + 1 => do
    match ← peek with
    | some (.scalar text style) =>
      drop
      return .scalar text style (if tag = some "!" then none else tag)
    | some .flowSequenceStart =>
      drop
      return .sequence (← flowItems true fuel)
    | some .flowMappingStart =>
      drop
      return .mapping (← flowFields true fuel)
    | some .blockEntry =>
      if bare then return .sequence (← bareEntries fuel) else empty named tag
    | some .blockSequenceStart =>
      if block then
        drop
        return .sequence (← blockEntries fuel)
      else empty named tag
    | some .blockMappingStart =>
      if block then
        drop
        return .mapping (← blockFields fuel)
      else empty named tag
    | _ => empty named tag

/-- The entries of a block, up to its end. -/
def blockEntries : Nat → Compose (List Node)
  | 0 => failure
  | fuel + 1 => do
    if ← accept .blockEntry then
      let item ← absentBefore [.blockEntry, .blockEnd] (node true false fuel)
      return item :: (← blockEntries fuel)
    else
      expect .blockEnd
      return []

/-- The entries of a block that is not indented. -/
def bareEntries : Nat → Compose (List Node)
  | 0 => failure
  | fuel + 1 => do
    if ← accept .blockEntry then
      let item ← absentBefore [.blockEntry, .key, .value, .blockEnd] (node true false fuel)
      return item :: (← bareEntries fuel)
    else return []

/-- The keys of a block with their values, up to its end. -/
def blockFields : Nat → Compose (List (Node × Node))
  | 0 => failure
  | fuel + 1 => do
    if ← accept .blockEnd then return []
    else
      expect .key
      let ends := [Token.key, .value, .blockEnd]
      let key ← absentBefore ends (node true true fuel)
      let value ← do
        if ← accept .value then absentBefore ends (node true true fuel) else pure .absent
      return (key, value) :: (← blockFields fuel)

/-- A key between brackets, whose mark has been read, with its value. -/
def flowField (close : Token) : Nat → Compose (Node × Node)
  | 0 => failure
  | fuel + 1 => do
    let ends := [Token.flowEntry, close]
    let key ← absentBefore (.value :: ends) (node false false fuel)
    let value ← do
      if ← accept .value then absentBefore ends (node false false fuel) else pure .absent
    return (key, value)

/-- The items between brackets, up to the closing one. -/
def flowItems (first : Bool) : Nat → Compose (List Node)
  | 0 => failure
  | fuel + 1 => do
    if ← accept .flowSequenceEnd then return []
    else
      if !first then expect .flowEntry
      if !first && (← accept .flowSequenceEnd) then return []
      else if ← accept .key then
        let field ← flowField .flowSequenceEnd fuel
        return .mapping [field] :: (← flowItems false fuel)
      else
        let item ← node false false fuel
        return item :: (← flowItems false fuel)

/-- The keys between braces with their values, up to the closing brace. -/
def flowFields (first : Bool) : Nat → Compose (List (Node × Node))
  | 0 => failure
  | fuel + 1 => do
    if ← accept .flowMappingEnd then return []
    else
      if !first then expect .flowEntry
      if !first && (← accept .flowMappingEnd) then return []
      else if ← accept .key then
        let field ← flowField .flowMappingEnd fuel
        return field :: (← flowFields false fuel)
      else
        let key ← node false false fuel
        return (key, .absent) :: (← flowFields false fuel)

end

/-! ### From the start of a text to its end -/

/-- The directives before a document: at most one version, which must be 1.1 or 1.2, and short
names for tags that differ from each other. -/
def directives (version : Bool) : Nat → Compose Unit
  | 0 => failure
  | fuel + 1 => do
    match ← peek with
    | some (.version major minor) =>
      if version || major ≠ 1 || (minor ≠ 1 && minor ≠ 2) then failure
      drop
      directives true fuel
    | some (.tagName handle start) =>
      let s ← get
      if s.tagNames.any (·.1 = handle) then failure
      set { s with tagNames := (handle, start) :: s.tagNames }
      drop
      directives version fuel
    | _ =>
      -- the two names that every document has, unless it gives them a meaning of its own
      modify fun s =>
        { s with tagNames := s.tagNames ++ [("!", "!"), ("!!", "tag:yaml.org,2002:")] }

/-- The end markers behind a document. -/
def endMarkers : Nat → Compose Unit
  | 0 => failure
  | fuel + 1 => do if ← accept .documentEnd then endMarkers fuel

/-- The top of the only document of a text, which is absent if the text is empty.  A document
that directives precede must start with its marker. -/
def root (fuel : Nat) : Compose Node := do
  match ← peek with
  | none => return .absent
  | some first =>
    let marked := match first with
      | .version .. | .tagName .. | .documentStart => true
      | _ => false
    directives false fuel
    let top ← do
      if marked then
        expect .documentStart
        absentBefore [.documentEnd] (node true false fuel)
      else node true false fuel
    endMarkers fuel
    if (← peek).isSome then failure
    return top

end Compose

/-! ### Documents -/

mutual

/-- The number of parts of a node. -/
def Node.parts : Node → Nat
  | .scalar .. | .alias _ => 1
  | .sequence items => 2 + partsOfItems items
  | .mapping fields => 2 + partsOfFields fields

/-- The number of parts of nodes in a row. -/
def Node.partsOfItems : List Node → Nat
  | [] => 0
  | n :: ns => n.parts + partsOfItems ns

/-- The number of parts of pairs of nodes. -/
def Node.partsOfFields : List (Node × Node) → Nat
  | [] => 0
  | (k, v) :: fs => k.parts + v.parts + partsOfFields fs

end

namespace Document

/-- The document that a text holds; a text without one counts as a document whose only node is
absent. -/
def read? (text : String) : Option Document := do
  let tokens ← Token.list? text.toList
  let (root, s) ← (Compose.root (4 * tokens.length + 8)).run ⟨tokens, [], [], #[]⟩
  some ⟨root, s.named, root.parts⟩

/-- The node that a node stands for: itself, unless it is a reference. -/
def resolve (d : Document) : Node → Node
  | .alias id => ((d.named.toList.filter (·.1 = id)).getLast?.map (·.2)).getD .absent
  | n => n

end Document

end Registrar.Yaml
