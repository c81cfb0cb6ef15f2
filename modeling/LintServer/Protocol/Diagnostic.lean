import LintServer.Protocol.Position
import LintServer.Uri.Reader

/-!
# Diagnostics

A diagnostic is a violation as an editor shows it: a range, a message and, for the server's own
use, data that the editor hands back unchanged. Diagnostics come back with code action requests,
also those of other servers, so every field of the protocol is read and written. An absent field
is left out.
-/

namespace LintServer

namespace Uri

def toJson (uri : Uri) : Json := .str uri.text

def ofJson : Json → Except Json.DecodeError Uri
  | .str text =>
    match parse text with
    | .ok uri => .ok uri
    | .error fault => .error (.described (fault.message ++ ": " ++ Text.quoted text))
  | v => .error (.wrongType v "a string representing an URL")

def shape : Shape := .ofDecoder Uri.ofJson

end Uri

/-- The code of a diagnostic. -/
inductive DiagnosticCode where
  | number (value : Int32)
  | name (value : String)
  deriving Repr, DecidableEq

namespace DiagnosticCode

def toJson : DiagnosticCode → Json
  | .number n => .ofInt n.toInt
  | .name s => .str s

def shape : Shape := .oneOf "NumberOrString" [.int32, .text]

def ofConformed : Json → Except Json.DecodeError DiagnosticCode
  | .str s => .ok (.name s)
  | v => (Json.toInt32 v).map .number

end DiagnosticCode

/-- Another place that a diagnostic refers to. -/
structure RelatedInformation where
  uri : Uri
  range : Range
  message : String
  deriving Repr, DecidableEq

namespace RelatedInformation

def toJson (r : RelatedInformation) : Json :=
  .obj [("location", .obj [("range", r.range.toJson), ("uri", r.uri.toJson)]),
    ("message", .str r.message)]

/-- A place in a document. -/
def locationShape : Shape := .record "Location" [("uri", Uri.shape), ("range", Range.shape)]

def shape : Shape :=
  .record "DiagnosticRelatedInformation" [("location", locationShape), ("message", .text)]

def ofConformed (v : Json) : Except Json.DecodeError RelatedInformation := do
  let fields ← v.toFields
  let location ← Json.required fields "location" Json.toFields
  return {
    uri := ← Json.required location "uri" Uri.ofJson
    range := ← Json.required location "range" Range.ofConformed
    message := ← Json.required fields "message" Json.toStr }

end RelatedInformation

structure Diagnostic where
  range : Range
  severity : Option Int32 := none
  code : Option DiagnosticCode := none
  codeDescription : Option Uri := none
  source : Option String := none
  message : String
  relatedInformation : Option (List RelatedInformation) := none
  tags : Option (List Int32) := none
  data : Option Json := none
  deriving Repr, DecidableEq

namespace Diagnostic

/-- The severity of a warning. -/
def warning : Int32 := 2

def toJson (d : Diagnostic) : Json :=
  .obj <|
    Json.field? "code" (d.code.map DiagnosticCode.toJson) ++
    Json.field? "codeDescription"
      (d.codeDescription.map fun href => .obj [("href", href.toJson)]) ++
    Json.field? "data" d.data ++
    [("message", .str d.message), ("range", d.range.toJson)] ++
    Json.field? "relatedInformation"
      (d.relatedInformation.map fun related => .arr (related.map RelatedInformation.toJson)) ++
    Json.field? "severity" (d.severity.map fun n => .ofInt n.toInt) ++
    Json.field? "source" (d.source.map .str) ++
    Json.field? "tags" (d.tags.map fun tags => .arr (tags.map fun n => .ofInt n.toInt))

/-- The page that explains a code. -/
def descriptionShape : Shape := .record "CodeDescription" [("href", Uri.shape)]

def shape : Shape :=
  .record "Diagnostic" [
    ("range", Range.shape),
    ("severity", .optional .int32),
    ("code", .optional DiagnosticCode.shape),
    ("codeDescription", .optional descriptionShape),
    ("source", .optional .text),
    ("message", .text),
    ("relatedInformation", .optional (.list RelatedInformation.shape)),
    ("tags", .optional (.list .int32)),
    ("data", .optional .any)]

def ofConformed (v : Json) : Except Json.DecodeError Diagnostic := do
  let fields ← v.toFields
  let description ← Json.field fields "codeDescription" Json.toFields
  return {
    range := ← Json.required fields "range" Range.ofConformed
    severity := ← Json.field fields "severity" Json.toInt32
    code := ← Json.field fields "code" DiagnosticCode.ofConformed
    codeDescription := ← description.mapM (Json.required · "href" Uri.ofJson)
    source := ← Json.field fields "source" Json.toStr
    message := ← Json.required fields "message" Json.toStr
    relatedInformation := ←
      Json.field fields "relatedInformation" (Json.toList RelatedInformation.ofConformed)
    tags := ← Json.field fields "tags" (Json.toList Json.toInt32)
    data := ← Json.field fields "data" .ok }

def ofJson : Json → Except Json.DecodeError Diagnostic := shape.decode ofConformed

end Diagnostic

end LintServer
