import PromptPacks.Json.Reader
import PromptPacks.Json.Writer
import PromptPacks.Pack.Envelope
import PromptPacks.Pack.Timestamp
import PromptPacks.Variable.Document

namespace PromptPacks

open Json PromptPacks.Number

def ExportedTemplate.toJson (template : ExportedTemplate) : Json :=
  .object [("template_id", .string template.templateId), ("content", .string template.content),
    ("content_hash", .ofOption .string template.hash)]

/-- The exported template that a document describes. The hash may be left out. -/
def ExportedTemplate.ofJson? (document : Json) : Option ExportedTemplate := do
  let fields ← document.fields?
  let templateId ← (field fields "template_id").string?
  let content ← (field fields "content").string?
  let hash ← optional? string? (field fields "content_hash")
  some ⟨templateId, content, hash⟩

def ExportedVariable.toJson (exported : ExportedVariable) : Json :=
  .object (exported.definition.toFields ++ [("sort_order", .integer exported.sortOrder)])

/-- The exported variable that a document describes. Without a place in the
    display order it is the first one. -/
def ExportedVariable.ofJson? (document : Json) : Option ExportedVariable := do
  let fields ← document.fields?
  let definition ← VariableDefinition.ofFields? fields
  let sortOrder ← (field? fields "sort_order").elim (some 0) (integer? minInt64 maxInt64)
  some ⟨definition, sortOrder⟩

namespace Envelope

/-- The fields of a document that say what an exported pack consists of. -/
def contentFields (envelope : Envelope) : List (String × Json) :=
  [("pack", .object [("name", .string envelope.name),
      ("description", .ofOption .string envelope.description),
      ("author", .ofOption .string envelope.author)]),
    ("templates", .array (envelope.templates.map ExportedTemplate.toJson)),
    ("variables", .array (envelope.variables.map ExportedVariable.toJson))]

/-- An exported pack as a document. The time of the export is not part of it. -/
def toJson (envelope : Envelope) : Json :=
  .object (("format_version", .integer envelope.version) :: envelope.contentFields)

/-- An exported pack as a document with the time of the export. -/
def toDatedJson (envelope : Envelope) (exportedAt : String) : Json :=
  .object (("format_version", .integer envelope.version) ::
    ("exported_at", .string exportedAt) :: envelope.contentFields)

/-- The exported pack that the fields of a document describe. The list of
    variables may be left out. -/
def ofFields? (fields : List (String × Json)) : Option Envelope := do
  let version ← (field fields "format_version").integer? 0 4294967295
  let pack ← (field fields "pack").fields?
  let name ← (field pack "name").string?
  let description ← optional? string? (field pack "description")
  let author ← optional? string? (field pack "author")
  let templates ← (field fields "templates").items? ExportedTemplate.ofJson?
  let declared ← (field? fields "variables").elim (some []) (items? ExportedVariable.ofJson?)
  some ⟨version.toNat, name, description, author, templates, declared⟩

/-- The exported pack that a document describes, whatever it says of the time of
    the export. -/
def ofJson? (document : Json) : Option Envelope :=
  document.fields?.bind ofFields?

/-- The exported pack that a document with the time of the export describes. -/
def ofDatedJson? (document : Json) : Option Envelope := do
  let fields ← document.fields?
  let exportedAt ← (field fields "exported_at").string?
  if isTimestamp exportedAt then ofFields? fields else none

end Envelope

/-- An exported pack with the moment of its export. -/
structure DatedEnvelope where
  envelope : Envelope
  exportedAt : Moment
deriving DecidableEq, Repr

namespace DatedEnvelope

def toJson (dated : DatedEnvelope) : Json :=
  dated.envelope.toDatedJson dated.exportedAt.text

def ofJson? (document : Json) : Option DatedEnvelope := do
  let fields ← document.fields?
  let text ← (field fields "exported_at").string?
  let exportedAt ← Moment.ofText? text
  let envelope ← Envelope.ofFields? fields
  some ⟨envelope, exportedAt⟩

def toText (dated : DatedEnvelope) : List Char :=
  Json.write dated.toJson

def ofText? (text : List Char) : Option DatedEnvelope :=
  (Json.parse? text).bind ofJson?

end DatedEnvelope

end PromptPacks
