import LintServer.Json.Decode

/-!
# Violations

A violation is what a lint engine reports for a document: a rule broken on a line, with the
bytes of that line it concerns and, for some rules, a fix.

A fix says how to repair one violation: on which line, from which byte column, how many bytes to
delete there and what to insert. It travels through the editor as JSON inside the diagnostic it
belongs to, so its field names are part of the wire format. An absent field is left out when a
fix is written, and read back as absent.
-/

namespace LintServer

/-! ## Fixes -/

/-- The repair of one violation. Columns count from one, in bytes; a delete count of minus one
removes the whole line. -/
structure Fix where
  line : Option UInt64 := none
  column : Option UInt64 := none
  deleteCount : Option Int64 := none
  insertText : Option String := none
  deriving Repr, DecidableEq

namespace Fix

def deletesLine (fix : Fix) : Bool :=
  fix.deleteCount == some (-1)

def toFields (fix : Fix) : Fields :=
  Json.field? "deleteCount" (fix.deleteCount.map fun n => .ofInt n.toInt) ++
  Json.field? "editColumn" (fix.column.map fun n => .ofNat n.toNat) ++
  Json.field? "insertText" (fix.insertText.map .str) ++
  Json.field? "lineNumber" (fix.line.map fun n => .ofNat n.toNat)

def toJson (fix : Fix) : Json := .obj fix.toFields

/-- A fix from its fields by name, which are looked at in key order. -/
def ofFields (fields : Fields) : Except Json.DecodeError Fix := do
  let deleteCount ← Json.field fields "deleteCount" Json.toInt64
  let column ← Json.field fields "editColumn" Json.toUInt64
  let insertText ← Json.field fields "insertText" Json.toStr
  let line ← Json.field fields "lineNumber" Json.toUInt64
  return { line, column, deleteCount, insertText }

/-- A fix from its fields by place. -/
def ofItems (items : List Json) : Except Json.DecodeError Fix := do
  let line ← Json.item items 0 Json.toUInt64
  let column ← Json.item items 1 Json.toUInt64
  let deleteCount ← Json.item items 2 Json.toInt64
  let insertText ← Json.item items 3 Json.toStr
  Json.atMost 4 items
  return { line, column, deleteCount, insertText }

def ofJson : Json → Except Json.DecodeError Fix :=
  Json.toRecord "FixDescriptor" ofFields ofItems

end Fix

/-! ## Violations -/

/-- The bytes of a line that a violation concerns. The start counts from one. -/
structure Span where
  start : UInt64
  length : UInt64
  deriving Repr, DecidableEq

/-- One rule broken on one line. Lines count from one; a rule has a name and often aliases. -/
structure Violation where
  line : UInt64 := 0
  names : List String := []
  description : String := ""
  detail : Option String := none
  span : Option Span := none
  fix : Option Fix := none
  deriving Repr, DecidableEq

namespace Violation

def primaryName? (v : Violation) : Option String := v.names.head?

/-- The line that the fix concerns, if there is one: its own, or the line of the violation. -/
def fixLine? (v : Violation) : Option UInt64 :=
  v.fix.map fun fix => fix.line.getD v.line

def joinedNames (v : Violation) : String := "/".intercalate v.names

/-- The detail between brackets, after a space. -/
def detailSuffix (v : Violation) : String :=
  match v.detail with
  | some detail => " [" ++ detail ++ "]"
  | none => ""

/-- The violation as one line of a report. -/
def text (v : Violation) : String :=
  toString v.line ++ ": " ++ v.joinedNames ++ " " ++ v.description ++ v.detailSuffix

end Violation

end LintServer
