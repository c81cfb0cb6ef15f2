import LintServer.Yaml.Scan

/-!
# Scalars of a YAML stream

The three ways in which a stream writes text: plain, between quotes, and as an indented block. In
the first two, line breaks between words are folded (`Gap.folded`); in a block they are folded or
kept as its header says.
-/

namespace LintServer.Yaml

/-! ## White space between words -/

/-- The white space between two words of a scalar: blanks only, or line breaks, the first of them
apart. Blanks around line breaks do not count. -/
inductive Gap where
  | blanks (text : List Char)
  | breaks (first more : List Char)
  deriving Repr

/-- The white space as it counts in the scalar: a newline alone is a space, and one in front of
other breaks is nothing. -/
def Gap.folded : Gap → List Char
  | .blanks text => text
  | .breaks ['\n'] [] => [' ']
  | .breaks ['\n'] more => more
  | .breaks first more => first ++ more

def Gap.hasBreak : Gap → Bool
  | .blanks _ => false
  | .breaks .. => true

namespace Scanner

/-- The white space from here, when `before` has been read of it. Behind a line break no tab may
stand left of the column `edge`. -/
def gap (before : Gap) (edge : Nat) : Scanner Gap :=
  loop before fun read => do
    match ← peek with
    | none => return .inr read
    | some c =>
      if isBlank c then
        match read with
        | .blanks text =>
          skip 1
          return .inl (.blanks (text ++ [c]))
        | .breaks .. =>
          check (c != '\t' || edge ≤ (← get).column)
          skip 1
          return .inl read
      else if isBreak c then
        let taken ← takeBreak
        match read with
        | .blanks _ => return .inl (.breaks taken [])
        | .breaks first more => return .inl (.breaks first (more ++ taken))
      else return .inr read

/-! ## Plain scalars -/

/-- The characters that structure flow collections. -/
def flowIndicators : List Char := [',', '[', ']', '\x7b', '\x7d']

/-- The characters up to the end of a word of a plain scalar. In a flow collection a colon in front
of an indicator is refused. -/
def plainWord? (flow : Bool) : List Char → Option (List Char)
  | [] => some []
  | c :: rest =>
    let isIndicator (x : Char) : Bool := flow && flowIndicators.contains x
    if isBlank c || isBreak c then some []
    else if c == ':' && rest.head?.any (fun x => isIndicator x || flow && x == '?') then none
    else if isIndicator c || c == ':' && endsWord rest.head? then some []
    else (plainWord? flow rest).map (c :: ·)

def plainWord (flow : Bool) : Scanner (List Char) := do
  match plainWord? flow (← get).rest with
  | none => fail
  | some word =>
    skip word.length
    return word

/-- A plain scalar. It ends at a document marker, at a comment, and outside flow collections at a
line that is not indented. If it ends at the start of a line, a key may follow. -/
def plain : Scanner String := do
  let flow ← inFlow
  let edge := ((← get).indent + 1).toNat
  let (text, last) ← loop (([] : List Char), Gap.blanks []) fun (text, before) => do
    if (← atAnyMarker) || (← peek) == some '#' then return .inr (text, before)
    let word ← plainWord flow
    if word.isEmpty then return .inr (text, before)
    let text := text ++ before.folded ++ word
    let after ← gap (.blanks []) edge
    if !flow && after.hasBreak && (← get).column < edge then return .inr (text, after)
    return .inl (text, after)
  if last.hasBreak then allowKey true
  return String.ofList text

/-! ## Quoted scalars -/

/-- The characters that a backslash and one character stand for. -/
def escaped? : Char → Option Char
  | '0' => some '\x00'
  | 'a' => some '\x07'
  | 'b' => some '\x08'
  | 't' | '\t' => some '\t'
  | 'n' => some '\n'
  | 'v' => some '\x0b'
  | 'f' => some '\x0c'
  | 'r' => some '\r'
  | 'e' => some '\x1b'
  | ' ' => some ' '
  | '"' => some '"'
  | '/' => some '/'
  | '\\' => some '\\'
  | 'N' => some '\u0085'
  | '_' => some '\u00a0'
  | 'L' => some '\u2028'
  | 'P' => some '\u2029'
  | _ => none

/-- How many hexadecimal digits follow a backslash and this character. -/
def hexLength? : Char → Option Nat
  | 'x' => some 2
  | 'u' => some 4
  | 'U' => some 8
  | _ => none

def hexDigit? (c : Char) : Option Nat :=
  if '0' ≤ c ∧ c ≤ '9' then some (c.toNat - '0'.toNat)
  else if 'a' ≤ c ∧ c ≤ 'f' then some (c.toNat - 'a'.toNat + 10)
  else if 'A' ≤ c ∧ c ≤ 'F' then some (c.toNat - 'A'.toNat + 10)
  else none

/-- The character with a code in hexadecimal digits. -/
def charOfHex? (digits : List Char) : Option Char := do
  let code ← digits.foldlM (fun code c => (hexDigit? c).map (16 * code + ·)) 0
  if code.isValidChar then some (Char.ofNat code) else none

/-- The character that an escape behind its backslash stands for. -/
def escape : Scanner Char := do
  let some c ← peek | fail
  skip 1
  if let some x := escaped? c then return x
  let some count := hexLength? c | fail
  let digits := (← get).rest.take count
  check (digits.length == count)
  let some x := charOfHex? digits | fail
  skip count
  return x

/-- The characters up to white space or the closing quote, and whether an escaped line break ends
them. -/
def quotedWord (quote : Char) : Scanner (List Char × Bool) :=
  loop ([] : List Char) fun word => do
    let some c ← peek | return .inr (word, false)
    if isBlank c || isBreak c then return .inr (word, false)
    if c == quote then
      if quote == '\x27' && (← peekAt 1) == some quote then
        skip 2
        return .inl (word ++ [quote])
      return .inr (word, false)
    if quote == '"' && c == '\\' then
      skip 1
      if (← peek).any isBreak then
        let _ ← takeBreak
        return .inr (word, true)
      return .inl (word ++ [← escape])
    skip 1
    return .inl (word ++ [c])

/-- A scalar between quotes. No document marker may stand in it. -/
def quoted (quote : Char) : Scanner String := do
  skip 1
  let text ← loop ([] : List Char) fun text => do
    check !(← atAnyMarker)
    check (← peek).isSome
    let (word, joined) ← quotedWord quote
    let text := text ++ word
    if (← peek) == some quote then return .inr text
    let after ← gap (if joined then .breaks [] [] else .blanks []) 0
    return .inl (text ++ after.folded)
  skip 1
  return String.ofList text

/-! ## Block scalars -/

/-- What becomes of the line breaks at the end of a block: all are dropped, the first is kept, or
all are kept. -/
inductive Chomping where
  | strip
  | clip
  | keep
  deriving Repr, DecidableEq

def chomping? : Scanner (Option Chomping) := do
  match ← peek with
  | some '+' =>
    skip 1
    return some .keep
  | some '-' =>
    skip 1
    return some .strip
  | _ => return none

/-- A digit that says how deep a block is indented; it is not zero. -/
def indentation? : Scanner (Option Nat) := do
  let some c ← peek | return none
  if c.isDigit then
    check (c != '0')
    skip 1
    return some (c.toNat - '0'.toNat)
  return none

/-- The two indicators of a block, in either order. -/
def blockIndicators : Scanner (Chomping × Option Nat) := do
  match ← chomping? with
  | some chomping => return (chomping, ← indentation?)
  | none =>
    let depth ← indentation?
    match depth with
    | some _ => return ((← chomping?).getD .clip, depth)
    | none => return (.clip, none)

/-- Steps over empty lines and the indentation after them, up to the column `indent` if that is
known. Returns the line breaks and the deepest column reached. -/
def emptyLines (indent : Option Nat) : Scanner (List Char × Nat) :=
  loop (([] : List Char), 0) fun (breaks, deepest) => do
    let s ← get
    let room := indent.elim s.rest.length (· - s.column)
    skip ((s.rest.take room).takeWhile (· == ' ')).length
    let column := (← get).column
    let deepest := max deepest column
    check ((← peek) != some '\t' || indent.any (· ≤ column))
    if (← peek).any isBreak then return .inl (breaks ++ (← takeBreak), deepest)
    return .inr (breaks, deepest)

/-- The lines of a block read so far: their text without the break of the last, that break, the
breaks of the empty lines behind it, and whether the last line begins with a blank. -/
structure BlockLines where
  text : List Char := []
  lastBreak : List Char := []
  breaks : List Char
  indented : Bool := false
  deriving Repr

/-- The text with the line breaks in front of a new line. A folded newline counts as a space or, in
front of empty lines, as nothing, unless one of its lines begins with a blank. -/
def BlockLines.joined (lines : BlockLines) (folded indented : Bool) : List Char :=
  let first :=
    if folded && lines.lastBreak == ['\n'] && !lines.indented && !indented then
      if lines.breaks.isEmpty then [' '] else []
    else lines.lastBreak
  lines.text ++ first ++ lines.breaks

/-- A block scalar: a header line, then every line indented by at least the column of the block. -/
def block (folded : Bool) : Scanner String := do
  skip 1
  let (chomping, depth) ← blockIndicators
  finishLine
  let _ ← takeBreak
  let parent := (← get).indent
  let given := depth.map (parent.toNat + ·)
  let (breaks, deepest) ← emptyLines given
  let indent := given.getD (max deepest (max (parent + 1).toNat 1))
  let lines ← loop ({ breaks := breaks } : BlockLines) fun lines => do
    let s ← get
    if s.column != indent || s.rest.isEmpty then return .inr lines
    let indented := s.rest.head?.any isBlank
    let line ← takeWhile fun c => !isBreak c
    let lastBreak ← takeBreak
    let (breaks, _) ← emptyLines (some indent)
    let text := lines.joined folded indented ++ line
    return .inl { text := text, lastBreak := lastBreak, breaks := breaks, indented := indented }
  return String.ofList <|
    match chomping with
    | .strip => lines.text
    | .clip => lines.text ++ lines.lastBreak
    | .keep => lines.text ++ lines.lastBreak ++ lines.breaks

end Scanner

end LintServer.Yaml
