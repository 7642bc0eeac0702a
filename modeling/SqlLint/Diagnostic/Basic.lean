import SqlLint.Document.Position
import SqlLint.Json.Record
import SqlLint.Url.Parse

/-!
# Diagnostics

A `Diagnostic` is what an editor shows about a range of a document.  It is read from and written as
JSON; fields that are not given are left out.
-/

namespace SqlLint

/-- What identifies the kind of a diagnostic. -/
inductive DiagnosticCode where
  | number (n : Int)
  | text (s : String)
  deriving DecidableEq, Repr

/-- A place that a diagnostic refers to. -/
structure RelatedInformation where
  uri : Url
  range : Range
  message : String
  deriving DecidableEq, Repr

/-- What an editor shows about a range of a document. -/
structure Diagnostic where
  range : Range
  severity : Option Int := none
  code : Option DiagnosticCode := none
  codeDescription : Option Url := none
  source : Option String := none
  message : String := ""
  relatedInformation : Option (List RelatedInformation) := none
  tags : Option (List Int) := none
  data : Option Json := none
  deriving Repr, BEq

/-! ## Reading -/

/-- The URL that a draft denotes. -/
def Url.ofDraft? (d : Draft) : Option Url := d.text?.bind Url.parse?

/-- The kind of a diagnostic. -/
def DiagnosticCode.ofDraft? : Draft → Option DiagnosticCode :=
  Draft.firstOf [fun d => d.int32?.map .number, fun d => d.text?.map .text]

/-- A place that a diagnostic refers to. -/
def RelatedInformation.ofDraft? (d : Draft) : Option RelatedInformation := do
  let r ← d.record? ["location", "message"]
  let (uri, range) ← r.required "location" fun d => do
    let r ← d.record? ["uri", "range"]
    return (← r.required "uri" Url.ofDraft?, ← r.required "range" Range.ofDraft?)
  return ⟨uri, range, ← r.required "message" Draft.text?⟩

/-- The description of the kind of a diagnostic: a link. -/
def codeDescriptionOfDraft? (d : Draft) : Option Url := do
  let r ← d.record? ["href"]
  r.required "href" Url.ofDraft?

namespace Diagnostic

/-- The fields of a diagnostic, in their order. -/
def fieldNames : List String :=
  [ "range", "severity", "code", "codeDescription", "source", "message", "relatedInformation",
    "tags", "data" ]

/-- The diagnostic that a draft denotes. -/
def ofDraft? (d : Draft) : Option Diagnostic := do
  let r ← d.record? fieldNames
  return {
    range := ← r.required "range" Range.ofDraft?
    severity := ← r.optional "severity" Draft.int32?
    code := ← r.optional "code" DiagnosticCode.ofDraft?
    codeDescription := ← r.optional "codeDescription" codeDescriptionOfDraft?
    source := ← r.optional "source" Draft.text?
    message := ← r.required "message" Draft.text?
    relatedInformation :=
      ← r.optional "relatedInformation" (Draft.list? RelatedInformation.ofDraft?)
    tags := ← r.optional "tags" (Draft.list? Draft.int32?)
    data := ← r.optional "data" Draft.settle? }

end Diagnostic

/-! ## Writing -/

/-- The kind of a diagnostic in JSON. -/
def DiagnosticCode.json : DiagnosticCode → Json
  | .number n => .int n
  | .text s => .str s

/-- A place that a diagnostic refers to, in JSON. -/
def RelatedInformation.json (r : RelatedInformation) : Json :=
  .object [
    ("location", .object [("uri", .str r.uri.text), ("range", r.range.json)]),
    ("message", .str r.message) ]

/-- A diagnostic in JSON. -/
def Diagnostic.json (d : Diagnostic) : Json :=
  .objectOf [
    ("range", some d.range.json),
    ("severity", d.severity.map .int),
    ("code", d.code.map DiagnosticCode.json),
    ("codeDescription", d.codeDescription.map fun u => .object [("href", .str u.text)]),
    ("source", d.source.map .str),
    ("message", some (.str d.message)),
    ("relatedInformation", d.relatedInformation.map (.list RelatedInformation.json)),
    ("tags", d.tags.map (.list .int)),
    ("data", d.data) ]

end SqlLint
