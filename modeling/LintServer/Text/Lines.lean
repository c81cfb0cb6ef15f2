/-!
# Lines of a text

A text is cut into pieces at a separator, so that there is always one piece more than there are
separators and joining the pieces with the separator gives the text back
(`List.intercalate_splitOn`). Editors count lines this way, with `'\n'` as the separator: a `'\r'`
before it belongs to the terminator and is left out of the line (`lineAt?`), and a final `'\n'` is
followed by one more, empty, line.

The batch fix routine cuts at the whole terminator of the document instead
(`LineEnding.pieces`). A blank line is one of white space only (`isBlank`).
-/

namespace LintServer.Text

/-! ## Cutting -/

/-- The pieces of a list between the occurrences of `sep`. -/
abbrev pieces {α : Type} [BEq α] (sep : α) (l : List α) : List (List α) := l.splitOn sep

/-- A list without the elements at its end that satisfy `p`. -/
def dropEndWhile {α : Type} (p : α → Bool) (l : List α) : List α :=
  (l.reverse.dropWhile p).reverse

/-! ## Lines -/

/-- A line without the `'\r'` that may end it. -/
def dropReturn (line : List Char) : List Char :=
  if line.getLast? = some '\r' then line.dropLast else line

/-- The line at the zero-based `index`, without its terminator. -/
def lineAt? (text : String) (index : Nat) : Option String :=
  (pieces '\n' text.toList)[index]?.map fun line => String.ofList (dropReturn line)

/-- How many lines an editor shows for a text. -/
def lineCount (text : String) : Nat :=
  (pieces '\n' text.toList).length

/-- The text after the last `'\n'`. -/
def lastLine (text : String) : String :=
  String.ofList ((pieces '\n' text.toList).getLast?.getD [])

/-! ## Line endings -/

/-- How the lines of a document end. -/
inductive LineEnding where
  | lf
  | crlf
  deriving Repr, DecidableEq

namespace LineEnding

def chars : LineEnding → List Char
  | .lf => ['\n']
  | .crlf => ['\r', '\n']

def toString (e : LineEnding) : String :=
  String.ofList e.chars

/-- Whether `"\r\n"` occurs. -/
def hasCrlf : List Char → Bool
  | '\r' :: '\n' :: _ => true
  | _ :: cs => hasCrlf cs
  | [] => false

/-- `"\r\n"` once it occurs anywhere, else `"\n"`. -/
def ofText (text : List Char) : LineEnding :=
  if hasCrlf text then .crlf else .lf

/-- The pieces of a text between the occurrences of `"\r\n"`. -/
def crlfPieces : List Char → List (List Char)
  | [] => [[]]
  | '\r' :: '\n' :: cs => [] :: crlfPieces cs
  | c :: cs => (crlfPieces cs).modifyHead (c :: ·)

/-- The pieces of a text between its line endings. -/
def pieces : LineEnding → List Char → List (List Char)
  | .lf => Text.pieces '\n'
  | .crlf => crlfPieces

end LineEnding

/-- Every `'\n'` replaced by `ending`. -/
def replaceNewlines (ending : List Char) (text : List Char) : List Char :=
  text.flatMap fun c => if c = '\n' then ending else [c]

/-! ## Blank text -/

/-- The code points of white space, as ranges. It is the Unicode property of that name, which has
no members above U+3000. -/
def blankRanges : List (Nat × Nat) :=
  [(0x09, 0x0D), (0x20, 0x20), (0x85, 0x85), (0xA0, 0xA0), (0x1680, 0x1680), (0x2000, 0x200A),
    (0x2028, 0x2029), (0x202F, 0x202F), (0x205F, 0x205F), (0x3000, 0x3000)]

def isBlankChar (c : Char) : Bool :=
  blankRanges.any fun (first, last) => first ≤ c.toNat && c.toNat ≤ last

def isBlank (text : List Char) : Bool := text.all isBlankChar

def trimEnd (text : List Char) : List Char := dropEndWhile isBlankChar text

def trimStart (text : List Char) : List Char := text.dropWhile isBlankChar

end LintServer.Text
