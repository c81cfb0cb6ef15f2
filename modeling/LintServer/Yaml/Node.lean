import LintServer.Yaml.Scan.Stream

/-!
# YAML nodes

The tree that the tokens of a document form. A node is an alias, a scalar or a collection; the
last two may have a tag and an anchor. Tags are resolved here: the handle of a tag is replaced by
what it is bound to.
-/

namespace LintServer.Yaml

/-- A tag: bytes that need not be a text. -/
abbrev Tag := List UInt8

/-- A scalar with its tag. An untagged plain scalar is read by its form, any other as text. -/
structure Scalar where
  tag : Option Tag := none
  text : String := ""
  isPlain : Bool := true
  deriving Repr, DecidableEq

/-- A node. An alias holds the number of the anchor that it stands for. -/
inductive Node where
  | alias (anchor : Nat)
  | scalar (anchor : Option Nat) (value : Scalar)
  | sequence (anchor : Option Nat) (tag : Option Tag) (items : List Node)
  | mapping (anchor : Option Nat) (tag : Option Tag) (entries : List (Node × Node))
  deriving Repr

namespace Node

/-- A scalar that is written as nothing. -/
def empty : Node := .scalar none {}

/-! ## Reading tokens -/

/-- The tokens still to read, what tag handles are bound to, and the numbers of the anchors by
name. -/
structure Reading where
  tokens : List Token
  handles : List (String × Tag)
  anchors : List (String × Nat) := []

/-- A step that reads tokens; it fails where they form no node. -/
abbrev Reader (α : Type) := StateT Reading Option α

namespace Reader

def fail {α : Type} : Reader α := fun _ => none

def check (condition : Bool) : Reader Unit := if condition then pure () else fail

def peek : Reader (Option Token) := do
  return (← get).tokens.head?

def skip : Reader Unit :=
  modify fun s => { s with tokens := s.tokens.tail }

/-- Whether one of `tokens` is next. -/
def atAny (tokens : List Token) : Reader Bool := do
  return (← peek).any tokens.contains

/-- Steps over a token if it is next, and says whether it was. -/
def accept (token : Token) : Reader Bool := do
  let found ← atAny [token]
  if found then skip
  return found

def expect (token : Token) : Reader Unit := do
  check (← accept token)

/-! ## Anchors and tags -/

/-- The number of a new anchor: how many names have been anchored before it. A name that is used
again stands for its latest number. -/
def anchor (name : String) : Reader Nat := do
  let s ← get
  let number := s.anchors.length
  let others := s.anchors.filter (·.1 != name)
  set { s with anchors := (name, number) :: others }
  return number

/-- The tag with its handle replaced by what the handle is bound to. -/
def tag (handle : String) (suffix : List UInt8) : Reader Tag := do
  if handle.isEmpty then return suffix
  match (← get).handles.lookup handle with
  | none => fail
  | some start => return start ++ suffix

/-- An anchor and a tag in front of a node, in either order. -/
def properties : Reader (Option Nat × Option Tag) := do
  match ← peek with
  | some (.anchor name) =>
    skip
    match ← peek with
    | some (.tag handle suffix) =>
      skip
      let tag ← tag handle suffix
      return (some (← anchor name), some tag)
    | _ => return (some (← anchor name), none)
  | some (.tag handle suffix) =>
    skip
    let tag ← tag handle suffix
    match ← peek with
    | some (.anchor name) =>
      skip
      return (some (← anchor name), some tag)
    | _ => return (none, some tag)
  | _ => return (none, none)

/-! ## Nodes and collections -/

/-- Where a node stands, which decides what it may be: in a flow collection, in a block, or as the
key or value of a block mapping, where a sequence need not be indented. -/
inductive Place where
  | flow
  | block
  | entry
  deriving Repr, DecidableEq

/-- The tokens behind which a flow collection has no node but an empty one. -/
def endsFlowEntry (close : Token) : List Token := [.flowEntry, close]

/-- The tokens behind which a block mapping has no node but an empty one. -/
def endsBlockEntry : List Token := [.key, .value, .blockEnd]

mutual

/-- A node, with at most `fuel` steps to a node or an entry inside it. -/
def node (fuel : Nat) (place : Place) : Reader Node := do
  match fuel with
  | 0 => fail
  | fuel + 1 =>
    if let some (.alias name) := ← peek then
      skip
      let some number := (← get).anchors.lookup name | fail
      return .alias number
    let (anchor, tag) ← properties
    match ← peek with
    | some (.scalar text isPlain) =>
      skip
      return .scalar anchor ⟨tag, text, isPlain⟩
    | some .flowSequenceStart =>
      skip
      return .sequence anchor tag (← flowItems fuel true)
    | some .flowMappingStart =>
      skip
      return .mapping anchor tag (← flowEntries fuel true)
    | some .blockEntry =>
      if place == .entry then return .sequence anchor tag (← indentlessItems fuel)
      else emptyNode anchor tag
    | some .blockSequenceStart =>
      if place == .flow then emptyNode anchor tag
      else
        skip
        return .sequence anchor tag (← blockItems fuel)
    | some .blockMappingStart =>
      if place == .flow then emptyNode anchor tag
      else
        skip
        return .mapping anchor tag (← blockEntries fuel)
    | _ => emptyNode anchor tag
where
  /-- A node of which only the anchor or the tag is written. -/
  emptyNode (anchor : Option Nat) (tag : Option Tag) : Reader Node := do
    check (anchor.isSome || tag.isSome)
    return .scalar anchor { tag := tag }

/-- A node, or an empty one in front of any of `ends`. -/
def nodeUnless (fuel : Nat) (place : Place) (ends : List Token) : Reader Node := do
  match fuel with
  | 0 => fail
  | fuel + 1 => if ← atAny ends then return empty else node fuel place

/-- The items of a block sequence, and its end. -/
def blockItems (fuel : Nat) : Reader (List Node) := do
  match fuel with
  | 0 => fail
  | fuel + 1 =>
    if ← accept .blockEnd then return []
    expect .blockEntry
    let item ← nodeUnless fuel .block [.blockEntry, .blockEnd]
    return item :: (← blockItems fuel)

/-- The items of a sequence in the column of the mapping around it. -/
def indentlessItems (fuel : Nat) : Reader (List Node) := do
  match fuel with
  | 0 => fail
  | fuel + 1 =>
    if ← accept .blockEntry then
      let item ← nodeUnless fuel .block (.blockEntry :: endsBlockEntry)
      return item :: (← indentlessItems fuel)
    return []

/-- The entries of a block mapping, and its end. -/
def blockEntries (fuel : Nat) : Reader (List (Node × Node)) := do
  match fuel with
  | 0 => fail
  | fuel + 1 =>
    if ← accept .blockEnd then return []
    expect .key
    let key ← nodeUnless fuel .entry endsBlockEntry
    let value ←
      if ← accept .value then nodeUnless fuel .entry endsBlockEntry else pure empty
    return (key, value) :: (← blockEntries fuel)

/-- The items of a flow sequence, and its end. A key in it begins a mapping of one entry. A key
that is written as nothing takes the token behind it with it. -/
def flowItems (fuel : Nat) (first : Bool) : Reader (List Node) := do
  match fuel with
  | 0 => fail
  | fuel + 1 =>
    if ← accept .flowSequenceEnd then return []
    unless first do expect .flowEntry
    if ← accept .flowSequenceEnd then return []
    if ← accept .key then
      let ends := endsFlowEntry .flowSequenceEnd
      let noKey ← atAny (.value :: ends)
      let key ← if noKey then do
          skip
          pure empty
        else node fuel .flow
      let value ← if ← accept .value then nodeUnless fuel .flow ends else pure empty
      return .mapping none none [(key, value)] :: (← flowItems fuel false)
    let item ← node fuel .flow
    return item :: (← flowItems fuel false)

/-- The entries of a flow mapping, and its end. -/
def flowEntries (fuel : Nat) (first : Bool) : Reader (List (Node × Node)) := do
  match fuel with
  | 0 => fail
  | fuel + 1 =>
    if ← accept .flowMappingEnd then return []
    unless first do expect .flowEntry
    if ← accept .flowMappingEnd then return []
    let ends := endsFlowEntry .flowMappingEnd
    if ← accept .key then
      let key ← nodeUnless fuel .flow (.value :: ends)
      let value ← if ← accept .value then nodeUnless fuel .flow ends else pure empty
      return (key, value) :: (← flowEntries fuel false)
    let key ← node fuel .flow
    return (key, empty) :: (← flowEntries fuel false)

end

/-! ## Documents -/

/-- The handles that are bound without a directive. -/
def builtinHandles : List (String × Tag) :=
  [("!", [localMark]), ("!!", Text.bytesOf "tag:yaml.org,2002:")]

/-- The directives in front of a document: whether a version has been stated, and the handles bound
so far. Only versions 1.1 and 1.2 are known, and none of this may be said twice. -/
def directives : List Token → Bool → List (String × Tag) →
    Option (List (String × Tag) × List Token)
  | .versionDirective major minor :: rest, versioned, handles =>
    if versioned || major != 1 || (minor != 1 && minor != 2) then none
    else directives rest true handles
  | .tagDirective handle start :: rest, versioned, handles =>
    if (handles.lookup handle).isSome then none
    else directives rest versioned ((handle, start) :: handles)
  | rest, _, handles => some (handles, rest)

/-- The tokens that may stand in place of the content of a document. -/
def isOutside : Token → Bool
  | .versionDirective .. | .tagDirective .. | .documentStart | .documentEnd | .streamEnd => true
  | _ => false

/-- The only node of a stream; a stream without a document has none. -/
def single : Reader (Option Node) := do
  let s ← get
  if s.tokens.head? == some .streamEnd then return none
  let some (handles, rest) := directives s.tokens false [] | fail
  let explicit := s.tokens.head?.any fun t => isOutside t && t != .documentEnd
  set { s with tokens := rest, handles := handles ++ builtinHandles }
  if explicit then expect .documentStart
  let isEmpty := explicit && (← peek).all isOutside
  let root ← if isEmpty then pure empty else node (2 * s.tokens.length + 2) .block
  modify fun s => { s with tokens := s.tokens.dropWhile (· == .documentEnd) }
  expect .streamEnd
  return some root

end Reader

/-- The node that a stream is; the stream without a document has none. Fails for a stream that is no
YAML or has a second document. -/
def ofStream? (text : String) : Option (Option Node) := do
  let tokens ← Token.ofStream? text
  (Reader.single.run { tokens := tokens, handles := [] }).map Prod.fst

end Node

end LintServer.Yaml
