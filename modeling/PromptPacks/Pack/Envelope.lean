import PromptPacks.Json.Value
import PromptPacks.Number.Decimal
import PromptPacks.Pack.Rules
import PromptPacks.Variable.Rules

namespace PromptPacks

open PromptPacks.Number PromptPacks.Text

/-- A template of an exported pack. The hash is for information only. -/
structure ExportedTemplate where
  templateId : String
  content : String
  hash : Option String
deriving DecidableEq, Repr

/-- A variable of an exported pack, with its place in the display order. -/
structure ExportedVariable where
  definition : VariableDefinition
  sortOrder : Int
deriving DecidableEq, Repr

/-- A pack in the form in which it is exchanged. -/
structure Envelope where
  version : Nat
  name : String
  description : Option String
  author : Option String
  templates : List ExportedTemplate
  «variables» : List ExportedVariable
deriving DecidableEq, Repr

namespace Envelope

/-- Accepts exported templates: each has an identifier, and all are distinct.
    `seen` holds those already accepted. -/
def checkTemplates (seen : List String) : List ExportedTemplate → Except Refusal Unit
  | [] => .ok ()
  | template :: rest =>
    if isBlankText template.templateId then .error (.violation .blankExportedId)
    else if seen.contains template.templateId then
      .error (.violation (.repeatedTemplate template.templateId))
    else checkTemplates (template.templateId :: seen) rest

/-- Accepts exported variables: all are custom, without fault and distinct.
    `seen` holds the names of those already accepted. -/
def checkVariables (seen : List String) : List ExportedVariable → Except Refusal Unit
  | [] => .ok ()
  | exported :: rest =>
    let definition := exported.definition
    if definition.category ≠ .custom then .error (.violation (.notCustom definition.name))
    else
      match definition.check with
      | .error refusal => .error refusal
      | .ok () =>
        if seen.contains definition.name then .error (.nameTaken .variable definition.name)
        else checkVariables (definition.name :: seen) rest

/-- Accepts an exported pack whose parts are in order. What its templates say is
    not looked at. -/
def check (envelope : Envelope) : Except Refusal Unit := do
  if envelope.version ≠ formatVersion then
    .error (.violation (.unsupportedVersion envelope.version))
  checkPackName envelope.name
  checkTemplates [] envelope.templates
  checkVariables [] envelope.variables

end Envelope

end PromptPacks
