import LintServer.Uri.Basic

/-!
# Reading URIs

A URI is read without a base, so it has to begin with a scheme. Surrounding spaces and all tabs
and newlines are dropped first. What follows the scheme depends on its kind: `file` has a host
that is mostly empty, the web schemes need a host and treat `\` like `/`, and any other scheme may
go without an authority and even without segments.
-/

namespace LintServer.Uri

/-! ## Scheme -/

inductive SchemeKind where
  | file
  | special
  | other
  deriving Repr, DecidableEq

def defaultPorts : List (String × Nat) :=
  [("http", 80), ("https", 443), ("ws", 80), ("wss", 443), ("ftp", 21)]

def kindOf (scheme : String) : SchemeKind :=
  if scheme = "file" then .file
  else if (defaultPorts.lookup scheme).isSome then .special
  else .other

def SchemeKind.isSpecial (kind : SchemeKind) : Bool := kind != .other

/-- The scheme in lower case, and what follows its colon. -/
def cutScheme? (text : List Char) : Option (String × List Char) :=
  let isSchemeChar (c : Char) : Bool := c.isAlphanum || ['+', '-', '.'].contains c
  let name := text.takeWhile isSchemeChar
  match name, text.drop name.length with
  | first :: _, ':' :: rest =>
    if first.isAlpha then some (String.ofList (name.map Char.toLower), rest) else none
  | _, _ => none

/-- The text without spaces and controls around it and without tabs and newlines in it. -/
def clean (text : List Char) : List Char :=
  let isEdge (c : Char) : Bool := c.toNat ≤ 0x20
  (Text.dropEndWhile isEdge (text.dropWhile isEdge)).filter fun c =>
    c != '\t' && c != '\n' && c != '\r'

/-! ## Path segments -/

def isSlash (kind : SchemeKind) (c : Char) : Bool := c == '/' || (kind.isSpecial && c == '\\')

/-- The pieces of a path between slashes. -/
def cutSegments (kind : SchemeKind) (path : List Char) : List (List Char) :=
  path.splitOnP (isSlash kind)

/-- A dot, plain or encoded, at the start of a segment. -/
def dropDot? : List Char → Option (List Char)
  | '.' :: rest => some rest
  | '%' :: '2' :: 'e' :: rest => some rest
  | '%' :: '2' :: 'E' :: rest => some rest
  | _ => none

def isSingleDot (segment : List Char) : Bool := dropDot? segment == some []

def isDoubleDot (segment : List Char) : Bool := (dropDot? segment).bind dropDot? == some []

def isDrive : List Char → Bool
  | [letter, mark] => letter.isAlpha && (mark == ':' || mark == '|')
  | _ => false

/-- The segments above a double dot. A drive, which a backslash may end as well, has none above
it. -/
def leaveSegment : List (List Char) → List (List Char)
  | [] => []
  | top :: above => if isDrive (top.takeWhile (· != '\\')) then top :: above else above

/-- The segments before the last, in reverse, after one more was read. A drive that begins the path
of a file is written with a colon. -/
def enterSegment (kind : SchemeKind) (above : List (List Char)) (segment : List Char) :
    List (List Char) :=
  if isDoubleDot segment then leaveSegment above
  else if isSingleDot segment then above
  else if kind = .file ∧ above.isEmpty ∧ isDrive segment then [segment.take 1 ++ [':']]
  else encode inPathSet segment :: above

/-- The segments of a path without dot segments; a dot segment at the end leaves an empty one. -/
def resolveSegments (kind : SchemeKind) : List (List Char) → List (List Char) → List (List Char)
  | above, [] => above.reverse
  | above, [last] =>
    let above := enterSegment kind above last
    (if isDoubleDot last || isSingleDot last then [] :: above else above).reverse
  | above, segment :: segments =>
    resolveSegments kind (enterSegment kind above segment) segments

/-- Whether a drive begins the path of a file at some time while its segments are read. -/
def namesDrive : List (List Char) → List (List Char) → Bool
  | _, [] => false
  | above, segment :: segments =>
    (above.isEmpty && isDrive segment) || namesDrive (enterSegment .file above segment) segments

/-- The path made of the text after its first slash. -/
def pathOf (kind : SchemeKind) (text : List Char) : List Char :=
  let segments := resolveSegments kind [] (cutSegments kind text)
  let path := ['/'].intercalate segments
  '/' :: if kind = .file then path.dropWhile (· == '/') else path

/-! ## Authority -/

/-- The text before the last `@`, if there is one, and the text after it. -/
def cutUserinfo (text : List Char) : Option (List Char) × List Char :=
  let host := (text.reverse.takeWhile (· != '@')).reverse
  if host.length < text.length then
    (some (text.take (text.length - host.length - 1)), host)
  else (none, text)

/-- User name and password, with the `@` after them. -/
def userinfoText (text : List Char) : List Char :=
  let name := text.takeWhile (· != ':')
  let password := (text.drop name.length).drop 1
  let shown := encode inUserinfoSet name ++
    if password.isEmpty then [] else ':' :: encode inUserinfoSet password
  if shown.isEmpty then [] else shown ++ ['@']

/-- The text before the colon of a port, and the text after it; a colon between brackets does not
count. -/
def cutPort (inBrackets : Bool) : List Char → List Char × Option (List Char)
  | [] => ([], none)
  | c :: cs =>
    if c = ':' ∧ !inBrackets then ([], some cs)
    else
      let inBrackets := if c = '[' then true else if c = ']' then false else inBrackets
      let (host, port) := cutPort inBrackets cs
      (c :: host, port)

/-- The port with these digits, unless it is the usual one. -/
def portOf (scheme : String) (digits : List Char) : Except Fault (Option Nat) :=
  if digits.isEmpty then .ok none
  else
    let port := digits.foldl (fun n c => n * 10 + (c.toNat - '0'.toNat)) 0
    if 65535 < port then .error .invalidPort
    else if defaultPorts.lookup scheme = some port then .ok none
    else .ok (some port)

/-- The authority at the start of a text, and the text from the path on. A backslash behind the port
begins the path of any URI. -/
def authorityOf (scheme : String) (kind : SchemeKind) (text : List Char) :
    Except Fault (Authority × List Char) := do
  let whole := text.takeWhile fun c => !(isSlash kind c || c == '?' || c == '#')
  let after := text.drop whole.length
  let (userinfo, rest) := cutUserinfo whole
  if userinfo = some [] ∧ rest.isEmpty ∧ !after.isEmpty then throw .emptyHost
  let userinfo := userinfoText (userinfo.getD [])
  let (host, port) := cutPort false rest
  if host.isEmpty ∧ (kind.isSpecial ∨ port.isSome) then throw .emptyHost
  let host ← if kind.isSpecial then specialHost host else otherHost host
  let port := port.getD []
  let digits := port.takeWhile Char.isDigit
  let behind := port.drop digits.length
  if !behind.isEmpty ∧ behind.head? ≠ some '\\' then throw .invalidPort
  let port ← portOf scheme digits
  if host.isEmpty ∧ !userinfo.isEmpty then throw .emptyHost
  return (⟨String.ofList userinfo, String.ofList host, port⟩, behind ++ after)

/-! ## The three kinds of scheme -/

/-- The text of a path, and the text of query and fragment. -/
def cutPath (text : List Char) : List Char × List Char :=
  let path := text.takeWhile fun c => c != '?' && c != '#'
  (path, text.drop path.length)

/-- Authority and path, and the text of query and fragment. -/
abbrev Body := Option Authority × List Char × List Char

/-- The host of a `file` URI; `localhost` is no host. -/
def fileHost (text : List Char) : Except Fault (List Char) := do
  if text.isEmpty then return []
  let host ← specialHost text
  return if host = ['l', 'o', 'c', 'a', 'l', 'h', 'o', 's', 't'] then [] else host

/-- The body behind two slashes. A drive letter is no host, and a path that a drive begins leaves
none. -/
def fileHostBody (text : List Char) : Except Fault Body := do
  let (text, after) := cutPath text
  let hostText := text.takeWhile fun c => !isSlash .file c
  let rest := text.drop hostText.length
  if isDrive hostText then return (some ⟨"", "", none⟩, pathOf .file text, after)
  let host ← fileHost hostText
  if host.isEmpty then return (some ⟨"", "", none⟩, pathOf .file rest, after)
  let path := rest.drop 1
  let host := if namesDrive [] (cutSegments .file path) then [] else host
  return (some ⟨"", String.ofList host, none⟩, pathOf .file path, after)

def fileBody (text : List Char) : Except Fault Body := do
  let behind := text.dropWhile (isSlash .file)
  if 2 ≤ text.length - behind.length then fileHostBody (text.drop 2)
  else
    let (path, after) := cutPath behind
    return (some ⟨"", "", none⟩, pathOf .file path, after)

def specialBody (scheme : String) (text : List Char) : Except Fault Body := do
  let (authority, text) ← authorityOf scheme .special (text.dropWhile (isSlash .special))
  let (path, after) := cutPath text
  return (some authority, pathOf .special (path.drop 1), after)

def otherBody (scheme : String) (text : List Char) : Except Fault Body := do
  match text with
  | '/' :: '/' :: rest =>
    let (authority, text) ← authorityOf scheme .other rest
    let (path, after) := cutPath text
    let path :=
      match path with
      | [] => []
      | '/' :: path => pathOf .other path
      | path => pathOf .other path
    return (some authority, path, after)
  | '/' :: rest =>
    let (path, after) := cutPath rest
    return (none, pathOf .other path, after)
  | _ =>
    let (path, after) := cutPath text
    return (none, encode isControl path, after)

/-! ## Whole URIs -/

/-- The text before the first `mark`, and the text after it if there is one. -/
def cutAt (mark : Char) (text : List Char) : List Char × Option (List Char) :=
  let before := text.takeWhile (· != mark)
  match text.drop before.length with
  | [] => (before, none)
  | _ :: after => (before, some after)

def parse (text : String) : Except Fault Uri := do
  match cutScheme? (clean text.toList) with
  | none => throw .noScheme
  | some (scheme, rest) =>
    let kind := kindOf scheme
    let (authority, path, after) ← match kind with
      | .file => fileBody rest
      | .special => specialBody scheme rest
      | .other => otherBody scheme rest
    let (query, fragment) := cutAt '#' after
    let querySet := if kind.isSpecial then inSpecialQuerySet else inQuerySet
    return {
      scheme, authority
      path := String.ofList path
      query := (cutAt '?' query).2.map fun q => String.ofList (encode querySet q)
      fragment := fragment.map fun f => String.ofList (encode inFragmentSet f) }

end LintServer.Uri
