import LintServer.Files.Path
import LintServer.Uri.Host

/-!
# URIs

A URI is kept in the parts of its parsed form: scheme and host in lower case, the default port
left out, the path without dot segments, and everything encoded that has to be. Two URIs are the
same if they agree in these parts.
-/

namespace LintServer

/-- What may stand between `//` and the path. -/
structure Authority where
  userinfo : String
  host : String
  port : Option Nat
  deriving Repr, DecidableEq

/-- A parsed URI. The path starts with `/` if it is made of segments. -/
structure Uri where
  scheme : String
  authority : Option Authority
  path : String
  query : Option String
  fragment : Option String
  deriving Repr, DecidableEq

namespace Uri

def portText : Option Nat → String
  | some port => ":" ++ toString port
  | none => ""

def authorityText : Option Authority → String
  | some a => "//" ++ a.userinfo ++ a.host ++ portText a.port
  | none => ""

/-- Keeps a path that starts with two slashes from being read as an authority. -/
def pathGuard (uri : Uri) : String :=
  match uri.authority, uri.path.toList with
  | none, '/' :: '/' :: _ => "/."
  | _, _ => ""

/-- The text of a URI. -/
def text (uri : Uri) : String :=
  uri.scheme ++ ":" ++ authorityText uri.authority ++ uri.pathGuard ++ uri.path ++
    (match uri.query with
      | some query => "?" ++ query
      | none => "") ++
    (match uri.fragment with
      | some fragment => "#" ++ fragment
      | none => "")

/-! ## Files -/

def isLocal (uri : Uri) : Bool :=
  match uri.authority with
  | none => true
  | some a => a.host == "" || a.host == "localhost"

/-- Whether a path ends in a drive letter, which needs a slash after it. -/
def endsInDrive (bytes : List UInt8) : Bool :=
  match bytes.reverse with
  | mark :: letter :: _ :: _ =>
    (mark == 0x3A || mark == 0x7C) &&
      ((0x41 ≤ letter && letter ≤ 0x5A) || (0x61 ≤ letter && letter ≤ 0x7A))
  | _ => false

/-- The path of the file that a URI names, whatever its scheme: the path of the URI decoded, if
it is made of segments and the URI names no other machine. -/
def toPath? (uri : Uri) : Option Path :=
  if uri.isLocal && uri.path.toList.head? == some '/' then
    let bytes := decodeBytes (Text.bytesOf uri.path)
    some ⟨if endsInDrive bytes then bytes ++ [Path.slash] else bytes⟩
  else none

end Uri

end LintServer
