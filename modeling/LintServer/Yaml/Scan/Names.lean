import LintServer.Text.Utf8
import LintServer.Yaml.Scan.Scalars

/-!
# Names in a YAML stream

Anchors and aliases are names; tags are a handle with a suffix that may hold percent-encoded
bytes; directives bind handles and state a version.
-/

namespace LintServer.Yaml.Scanner

/-! ## Anchors and aliases -/

/-- The name behind `&` or `*`. Something that can follow a name has to follow it. -/
def anchorName : Scanner String := do
  skip 1
  let name ← takeWhile isNameChar
  check !name.isEmpty
  let next ← peek
  check (endsWord next || next.any fun c => "?:,]\x7d%@\x60".toList.contains c)
  return String.ofList name

/-! ## Tags -/

def isUriChar (c : Char) : Bool :=
  isNameChar c || ";/?:@&=+$.%!~*\x27()".toList.contains c

/-- The characters of a tag that is written out in full, and of what a handle is bound to. -/
def isFullUriChar (c : Char) : Bool := isUriChar c || ",[]".toList.contains c

/-- The bytes of a text in which `%` and two hexadecimal digits may stand for one. -/
def uriBytes? : List Char → Option (List UInt8)
  | [] => some []
  | '%' :: a :: b :: rest => do
    let high ← hexDigit? a
    let low ← hexDigit? b
    return UInt8.ofNat (16 * high + low) :: (← uriBytes? rest)
  | '%' :: _ => none
  | c :: rest => do
    return Text.bytesOf (String.singleton c) ++ (← uriBytes? rest)

/-- How many bytes follow the first byte of a character. -/
def following? (b : UInt8) : Option Nat :=
  if b < 0x80 then some 0
  else if b &&& 0xE0 = 0xC0 then some 1
  else if b &&& 0xF0 = 0xE0 then some 2
  else if b &&& 0xF8 = 0xF0 then some 3
  else none

/-- Whether bytes have the outline of characters: `missing` bytes that continue one, and then
first bytes with as many behind each as it announces. -/
def isOutline : (missing : Nat) → List UInt8 → Bool
  | missing, [] => missing == 0
  | missing + 1, b :: rest => b &&& 0xC0 == 0x80 && isOutline missing rest
  | 0, b :: rest => (following? b).any fun missing => isOutline missing rest

/-- The bytes of a text of the class `p`, behind the characters `start` of it that have been read.
A zero byte ends what counts of it. -/
def uri (p : Char → Bool) (start : List Char) : Scanner (List UInt8) := do
  let read ← takeWhile p
  let some bytes := uriBytes? read | fail
  check (isOutline 0 bytes)
  return (Text.bytesOf (String.ofList start) ++ bytes).takeWhile (· != 0)

/-- A handle: `!`, and then a name that another `!` may close. -/
def tagHandle : Scanner (List Char) := do
  check ((← peek) == some '!')
  skip 1
  let name ← takeWhile isNameChar
  if (← peek) == some '!' then
    skip 1
    return '!' :: name ++ ['!']
  return '!' :: name

/-- A tag as its handle and its suffix: in full and without a handle, behind a closed handle, or
behind the handle `!`. The tag that is nothing but `!` has no handle either. -/
def tag : Scanner Token := do
  let token ←
    if (← peekAt 1) == some '<' then do
      skip 2
      check ((← peek).any isFullUriChar)
      let suffix ← uri isFullUriChar []
      check ((← peek) == some '>')
      skip 1
      pure (Token.tag "" suffix)
    else do
      let handle ← tagHandle
      if 1 < handle.length && handle.getLast? == some '!' then
        check ((← peek).any isUriChar)
        pure (Token.tag (String.ofList handle) (← uri isUriChar []))
      else
        let suffix ← uri isUriChar handle.tail
        pure (if suffix.isEmpty then Token.tag "" [localMark] else Token.tag "!" suffix)
  let next ← peek
  check (endsWord next || (next == some ',' && (← inFlow)))
  return token

/-! ## Directives -/

/-- A number of at most nine digits. -/
def versionNumber : Scanner Nat := do
  let digits ← takeWhile Char.isDigit
  check (!digits.isEmpty && digits.length ≤ 9)
  return digits.foldl (fun n c => 10 * n + (c.toNat - '0'.toNat)) 0

def directive : Scanner Token := do
  skip 1
  let name ← takeWhile isNameChar
  check (endsWord (← peek))
  let _ ← takeWhile isBlank
  let token ←
    if name == "YAML".toList then do
      let major ← versionNumber
      check ((← peek) == some '.')
      skip 1
      pure (Token.versionDirective major (← versionNumber))
    else if name == "TAG".toList then do
      let handle ← tagHandle
      check (handle.length == 1 || handle.getLast? == some '!')
      check ((← peek).any isBlank)
      let _ ← takeWhile isBlank
      check ((← peek).any isFullUriChar)
      let start ← uri isFullUriChar []
      check (endsWord (← peek))
      pure (Token.tagDirective (String.ofList handle) start)
    else fail
  finishLine
  let _ ← takeBreak
  return token

end LintServer.Yaml.Scanner
