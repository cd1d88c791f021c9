import PromptPacks.Json.Part
import PromptPacks.Variable.Definition

namespace PromptPacks

open Json

def EnumOption.toJson (option : EnumOption) : Json :=
  .object [("label", .string option.label), ("value", .string option.value)]

def EnumOption.ofJson? (document : Json) : Option EnumOption := do
  let fields ← document.fields?
  let label ← (field fields "label").string?
  let value ← (field fields "value").string?
  some ⟨label, value⟩

def optionsToJson (options : List EnumOption) : Json :=
  .array (options.map EnumOption.toJson)

def VariableType.ofJson? (document : Json) : Option VariableType :=
  document.string?.bind VariableType.ofLabel?

def VariableCategory.ofJson? (document : Json) : Option VariableCategory :=
  document.string?.bind VariableCategory.ofLabel?

namespace VariableDefinition

def toFields (definition : VariableDefinition) : List (String × Json) :=
  [("name", .string definition.name),
    ("display_name", .string definition.displayName),
    ("variable_type", .string definition.type.label),
    ("category", .string definition.category.label),
    ("required", .bool definition.required),
    ("default_value", .ofOption .string definition.defaultValue),
    ("enum_options", .ofOption optionsToJson definition.options),
    ("description", .ofOption .string definition.description)]

/-- The definition that the fields of a document describe. Default value,
    options and description may be left out. -/
def ofFields? (fields : List (String × Json)) : Option VariableDefinition := do
  let name ← (field fields "name").string?
  let displayName ← (field fields "display_name").string?
  let type ← VariableType.ofJson? (field fields "variable_type")
  let category ← VariableCategory.ofJson? (field fields "category")
  let required ← (field fields "required").bool?
  let defaultValue ← optional? string? (field fields "default_value")
  let options ← optional? (items? EnumOption.ofJson?) (field fields "enum_options")
  let description ← optional? string? (field fields "description")
  some ⟨name, displayName, type, category, required, defaultValue, options, description⟩

def ofJson? (document : Json) : Option VariableDefinition :=
  document.fields?.bind ofFields?

end VariableDefinition

end PromptPacks
