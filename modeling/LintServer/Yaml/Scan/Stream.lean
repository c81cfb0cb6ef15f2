import LintServer.Yaml.Scan.Names

/-!
# The tokens of a YAML stream

Each round of the scanner steps to the next token, ends what the indentation there ends, and reads
the token. A stream is read to its end before anything is made of it, so it is refused for what
is wrong anywhere in it.
-/

namespace LintServer.Yaml

namespace Scanner

/-- Steps over white space and comments. A byte order mark may begin a line. A tab counts as white
space only where no key may begin, because it is no indentation; a new line outside flow
collections is a place for a key. -/
def skipToToken : Scanner Unit :=
  loop () fun () => do
    if (← get).column == 0 && (← peek) == some '\uFEFF' then skip 1
    let flow ← inFlow
    let keyAllowed := (← get).keyAllowed
    let _ ← takeWhile fun c => c == ' ' || c == '\t' && (flow || !keyAllowed)
    if (← peek) == some '#' then skipToBreak
    if (← peek).any isBreak then
      let _ ← takeBreak
      unless flow do allowKey true
      return .inl ()
    return .inr ()

/-! ## Indicators -/

/-- Steps over an indicator that is a token. -/
def indicator (length : Nat) (token : Token) : Scanner Unit := do
  skip length
  push token

def openFlow (token : Token) : Scanner Unit := do
  saveKey
  modify fun s => { s with keys := {} :: s.keys }
  allowKey true
  indicator 1 token

def closeFlow (token : Token) : Scanner Unit := do
  dropKey
  if ← inFlow then
    modify fun s => { s with keys := s.keys.tail }
  allowKey false
  indicator 1 token

/-- A document marker, or another thing that ends all blocks. -/
def breakOff (after : Scanner Unit) : Scanner Unit := do
  closeBlocks (-1)
  dropKey
  allowKey false
  after

/-- An indicator that begins an entry of a block collection, which may be the first. -/
def blockIndicator (first token : Token) (keyAfter : Bool) : Scanner Unit := do
  unless ← inFlow do
    check (← get).keyAllowed
    openBlock (← get).column none first
  dropKey
  allowKey keyAfter
  indicator 1 token

/-- The colon in front of a value. If a key may have begun earlier, it did. -/
def valueIndicator : Scanner Unit := do
  let s ← get
  let flow ← inFlow
  match s.keys with
  | key :: keys =>
    if key.possible then
      insertAt key.token .key
      openBlock key.column (some key.token) .blockMappingStart
      let spent := { key with possible := false }
      modify fun s => { s with keys := spent :: keys }
      allowKey false
    else
      unless flow do
        check s.keyAllowed
        openBlock s.column none .blockMappingStart
      allowKey !flow
  | [] => fail
  indicator 1 .value

/-! ## The next token -/

/-- The characters that cannot begin a plain scalar, unless something follows them that makes them
part of a word. -/
def indicators : List Char :=
  ['-', '?', ':', ',', '[', ']', '\x7b', '\x7d', '#', '&', '*', '!', '|', '>', '\x27', '"', '%',
    '@', '\x60']

def beginsPlain (flow : Bool) (c : Char) (next : Option Char) : Bool :=
  !(isBlank c || indicators.contains c) || c == '-' && !next.any isBlank ||
    !flow && (c == '?' || c == ':') && !endsWord next

/-- A token in front of which a key may begin, and behind which none may. -/
def inKey (token : Scanner Token) : Scanner Unit := do
  saveKey
  allowKey false
  push (← token)

/-- A block scalar; a key may follow it. -/
def blockText (folded : Bool) : Scanner Unit := do
  dropKey
  allowKey true
  push (.scalar (← block folded) false)

/-- The token that the character `c` begins. -/
def token (c : Char) : Scanner Unit := do
  let flow ← inFlow
  let next ← peekAt 1
  let atWordEnd := flow || endsWord next
  if (← get).column == 0 && c == '%' then breakOff (do push (← directive))
  else if ← atMarker '-' then breakOff (indicator 3 .documentStart)
  else if ← atMarker '.' then breakOff (indicator 3 .documentEnd)
  else if c == '[' then openFlow .flowSequenceStart
  else if c == '\x7b' then openFlow .flowMappingStart
  else if c == ']' then closeFlow .flowSequenceEnd
  else if c == '\x7d' then closeFlow .flowMappingEnd
  else if c == ',' then do
    dropKey
    allowKey true
    indicator 1 .flowEntry
  else if c == '-' && endsWord next then blockIndicator .blockSequenceStart .blockEntry true
  else if c == '?' && atWordEnd then blockIndicator .blockMappingStart .key !flow
  else if c == ':' && atWordEnd then valueIndicator
  else if c == '*' then inKey (return .alias (← anchorName))
  else if c == '&' then inKey (return .anchor (← anchorName))
  else if c == '!' then inKey tag
  else if c == '|' && !flow then blockText false
  else if c == '>' && !flow then blockText true
  else if c == '\x27' || c == '"' then inKey (return .scalar (← quoted c) false)
  else if beginsPlain flow c next then inKey (return .scalar (← plain) true)
  else fail

/-- Ends the stream; what is open then ends as if at the start of a line. -/
def finish : Scanner Unit := do
  modify fun s => if s.column == 0 then s else { s with column := 0, line := s.line + 1 }
  breakOff (push .streamEnd)

/-- All tokens of the stream. -/
def stream : Scanner (List Token) :=
  loop () fun () => do
    skipToToken
    expireKeys
    closeBlocks (← get).column
    match ← peek with
    | some c =>
      token c
      return .inl ()
    | none =>
      finish
      return .inr (← get).tokens.toList

end Scanner

/-- The tokens of a stream, if it has nothing but allowed characters and every token is
well-formed. -/
def Token.ofStream? (text : String) : Option (List Token) :=
  let characters := text.toList
  if characters.all isAllowed then (Scanner.stream.run { rest := characters }).map Prod.fst
  else none

end LintServer.Yaml
