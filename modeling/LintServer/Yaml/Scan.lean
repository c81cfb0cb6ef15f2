import LintServer.Text.Units
import LintServer.Yaml.Token

/-!
# Scanning a YAML stream

A scan holds what is left of a stream and where that begins: how many bytes came before, and in
which line and column it is. Beside that it keeps the tokens found so far, the columns of
the open block collections, and the places at which a key without an indicator may have begun. A
step of the scanner works on the scan as a whole and fails by having no value.
-/

namespace LintServer.Yaml

/-- A place at which a mapping key without an indicator may have begun: the token that starts
there, and where that is. A required key has to turn out to be one. -/
structure PendingKey where
  possible : Bool := false
  required : Bool := false
  token : Nat := 0
  index : Nat := 0
  line : Nat := 0
  column : Nat := 0
  deriving Repr

/-- A scan in progress. `keys` holds the pending key of every open flow collection and of the
block around them, innermost first. -/
structure Scan where
  rest : List Char
  index : Nat := 0
  line : Nat := 0
  column : Nat := 0
  tokens : Array Token := #[]
  indent : Int := -1
  outerIndents : List Int := []
  keyAllowed : Bool := true
  keys : List PendingKey := [{}]
  deriving Repr

/-- The pending key that would begin here. A key in the column of an open block collection is
required. -/
def Scan.keyHere (s : Scan) : PendingKey where
  possible := true
  required := s.keys.length == 1 && s.indent == (s.column : Int)
  token := s.tokens.size
  index := s.index
  line := s.line
  column := s.column

/-- Whether a pending key is too far back: a key stands on one line and has at most 1024 bytes. -/
def Scan.isExpired (s : Scan) (key : PendingKey) : Bool :=
  key.possible && (key.line < s.line || key.index + 1024 < s.index)

/-- A step of the scanner; it fails on a stream that is no YAML. -/
abbrev Scanner (α : Type) := StateT Scan Option α

namespace Scanner

def fail {α : Type} : Scanner α := fun _ => none

/-- Goes on only if a condition holds. -/
def check (condition : Bool) : Scanner Unit := if condition then pure () else fail

/-- At most `n` rounds of a loop, which a round ends with a result or continues with a state. -/
def rounds {σ α : Type} (round : σ → Scanner (σ ⊕ α)) : Nat → σ → Scanner α
  | 0, _ => fail
  | n + 1, state => do
    match ← round state with
    | .inl next => rounds round n next
    | .inr result => return result

/-- A loop whose every round but the last steps over a character, so that it ends within one more
round than there are characters. -/
def loop {σ α : Type} (start : σ) (round : σ → Scanner (σ ⊕ α)) : Scanner α := do
  rounds round ((← get).rest.length + 1) start

def peek : Scanner (Option Char) := do
  return (← get).rest.head?

/-- The character after the next `n`. -/
def peekAt (n : Nat) : Scanner (Option Char) := do
  return (← get).rest[n]?

/-- Whether a flow collection is open. -/
def inFlow : Scanner Bool := do
  return 1 < (← get).keys.length

/-- Steps over `n` characters of one line. -/
def skip (n : Nat) : Scanner Unit :=
  modify fun s => { s with
    rest := s.rest.drop n
    index := s.index + Text.byteLength (s.rest.take n)
    column := s.column + n }

/-- Steps over the characters of a class, none of which breaks a line, and returns them. -/
def takeWhile (p : Char → Bool) : Scanner (List Char) := do
  let taken := (← get).rest.takeWhile p
  skip taken.length
  return taken

/-- Steps over a line break, if one is next, and returns it as it counts in a scalar: the breaks
of Unicode as they are, every other one as a newline. -/
def takeBreak : Scanner (List Char) := do
  let s ← get
  let next (n : Nat) (rest : List Char) : Scan :=
    { s with rest := rest, index := s.index + n, line := s.line + 1, column := 0 }
  match s.rest with
  | '\r' :: '\n' :: rest =>
    set (next 2 rest)
    return ['\n']
  | c :: rest =>
    if isBreak c then
      set (next c.utf8Size rest)
      return if c.toNat = 0x2028 ∨ c.toNat = 0x2029 then [c] else ['\n']
    else return []
  | [] => return []

/-- Steps over what is left of a line but its break. -/
def skipToBreak : Scanner Unit := do
  let _ ← takeWhile fun c => !isBreak c

/-- Steps over blanks and a comment; nothing else may be left on the line. -/
def finishLine : Scanner Unit := do
  let _ ← takeWhile isBlank
  if (← peek) == some '#' then skipToBreak
  check (endsLine (← peek))

/-- Whether a document marker made of `c` is next. -/
def atMarker (c : Char) : Scanner Bool := do
  let s ← get
  return s.column == 0 && s.rest.take 3 == [c, c, c] && endsWord s.rest[3]?

def atAnyMarker : Scanner Bool := do
  return (← atMarker '-') || (← atMarker '.')

/-! ## Tokens and pending keys -/

def push (token : Token) : Scanner Unit :=
  modify fun s => { s with tokens := s.tokens.push token }

/-- Puts a token in front of the token with the number `place`. -/
def insertAt (place : Nat) (token : Token) : Scanner Unit :=
  modify fun s => { s with tokens := s.tokens.insertIdxIfInBounds place token }

def allowKey (allowed : Bool) : Scanner Unit :=
  modify fun s => { s with keyAllowed := allowed }

/-- Gives up the pending key of the innermost collection. -/
def dropKey : Scanner Unit := do
  let s ← get
  match s.keys with
  | [] => pure ()
  | key :: keys =>
    check !(key.possible && key.required)
    set { s with keys := { key with possible := false } :: keys }

/-- Notes that a key may begin here. -/
def saveKey : Scanner Unit := do
  if (← get).keyAllowed then
    dropKey
    modify fun s => { s with keys := s.keyHere :: s.keys.drop 1 }

/-- Gives up the pending keys that are too far back. -/
def expireKeys : Scanner Unit := do
  let s ← get
  let lost := s.keys.filter s.isExpired
  check (lost.all fun key => !key.required)
  let kept := s.keys.map fun key => { key with possible := key.possible && !s.isExpired key }
  set { s with keys := kept }

/-! ## Block structure -/

/-- Ends the block collections that `column` is left of, outermost last. -/
def closeTo (column : Int) (indent : Int) : List Int → List Token × Int × List Int
  | [] => ([], indent, [])
  | outer :: rest =>
    if column < indent then
      let (tokens, indent, rest) := closeTo column outer rest
      (.blockEnd :: tokens, indent, rest)
    else ([], indent, outer :: rest)

/-- Ends the block collections that `column` is left of, outside flow collections. -/
def closeBlocks (column : Int) : Scanner Unit := do
  if ← inFlow then return
  modify fun s =>
    let (tokens, indent, outer) := closeTo column s.indent s.outerIndents
    { s with tokens := s.tokens ++ tokens, indent := indent, outerIndents := outer }

/-- Begins a block collection at a column right of the current indentation. -/
def openBlock (column : Nat) (place : Option Nat) (token : Token) : Scanner Unit := do
  if ← inFlow then return
  let s ← get
  if s.indent < (column : Int) then
    set { s with indent := (column : Int), outerIndents := s.indent :: s.outerIndents }
    match place with
    | some place => insertAt place token
    | none => push token

end Scanner

end LintServer.Yaml
