import PromptPacks.Variable.Definition

namespace PromptPacks

def maxVariableName : Nat := 64

def maxDisplayName : Nat := 120

def maxPackName : Nat := 200

def maxFreeText : Nat := 5000

/-- The version of the exchange format that is written and read. -/
def formatVersion : Nat := 1

/-- The rules that an input can break. -/
inductive Violation where
  | definition (fault : DefinitionFault)
  | value (fault : ValueFault) (name value : String)
  | unknownType (spelling : String)
  | undeclaredOverride (name : String)
  | compositeOverride (name : String)
  | blankPackName
  | packNameTooLong (length : Nat)
  | freeTextTooLong (field : String) (length : Nat)
  | unsupportedVersion (version : Nat)
  | blankExportedId
  | repeatedTemplate (templateId : String)
  | notCustom (name : String)
  | readOnlyDefault
  | blankTemplateId
  | invalidPoolSize (text : String)
deriving DecidableEq, Repr

def ValueFault.message (name value : String) : ValueFault → String
  | .notNumber => s!"Value '{value}' for '{name}' is not a number"
  | .notBoolean => s!"Value '{value}' for '{name}' must be true or false"
  | .notOption => s!"Value '{value}' is not one of the options of '{name}'"

def DefinitionFault.message : DefinitionFault → String
  | .invalidName name =>
    s!"Variable name '{name}' is not valid. Use letters, digits and underscores, " ++
      "starting with a letter"
  | .nameTooLong size => s!"Variable name too long: {size} chars (max {maxVariableName})"
  | .blankDisplayName => "Variable display name must not be empty"
  | .displayNameTooLong size =>
    s!"Variable display name too long: {size} chars (max {maxDisplayName})"
  | .noOptions name => s!"Enum variable '{name}' must have at least one option"
  | .emptyOption name => s!"Enum variable '{name}' has an option with an empty value"
  | .repeatedOption name value => s!"Enum variable '{name}' has duplicate option value '{value}'"
  | .strayOptions name type =>
    s!"Only enum variables may define options ('{name}' is {type.label})"
  | .unfitDefault fault name value => fault.message name value

def Violation.message : Violation → String
  | .definition fault => fault.message
  | .value fault name given => fault.message name given
  | .unknownType spelling =>
    s!"Invalid variable type '{spelling}'. Must be one of: " ++
      ", ".intercalate (VariableType.all.map (·.label))
  | .undeclaredOverride name => s!"'{name}' is not a custom variable of this pack"
  | .compositeOverride name => s!"Value for '{name}' must be text, a number or true/false"
  | .blankPackName => "Pack name must not be empty"
  | .packNameTooLong length => s!"Pack name too long: {length} chars (max {maxPackName})"
  | .freeTextTooLong field length => s!"{field} too long: {length} chars (max {maxFreeText})"
  | .unsupportedVersion version =>
    s!"Unsupported pack format version {version} (expected {formatVersion})"
  | .blankExportedId => "Exported template has an empty template id"
  | .repeatedTemplate templateId => s!"Template '{templateId}' appears more than once"
  | .notCustom name => s!"Variable '{name}' must be a custom variable"
  | .readOnlyDefault =>
    "The default pack is read-only. Create a new pack to customize templates"
  | .blankTemplateId => "Template id must not be empty"
  | .invalidPoolSize text => s!"DB_MAX_CONNECTIONS must be a positive integer, got '{text}'"

/-- The things that can be looked for in vain. -/
inductive Entity where
  | pack
  | template
  | customVariable
  | story
deriving DecidableEq, Repr

def Entity.label : Entity → String
  | .pack => "preset pack"
  | .template => "template"
  | .customVariable => "custom variable"
  | .story => "story"

/-- The things whose names have to be distinct. -/
inductive NamedThing where
  | pack
  | variable
deriving DecidableEq, Repr

def NamedThing.label : NamedThing → String
  | .pack => "pack"
  | .variable => "variable"

/-- Why a request is turned down. -/
inductive Refusal where
  | notFound (entity : Entity) (key : String)
  | violation (broken : Violation)
  | nameTaken (thing : NamedThing) (name : String)
  | packInUse (packId : Int) (stories : Nat)
  | defaultPackStays
  | nothingToReset (templateId : String)
deriving DecidableEq, Repr

def Refusal.message : Refusal → String
  | .notFound entity key => s!"Entity not found: {entity.label} '{key}'"
  | .violation broken => s!"Validation failed: {broken.message}"
  | .nameTaken thing name => s!"Duplicate {thing.label} name: '{name}'"
  | .packInUse packId stories =>
    s!"Pack {packId} is assigned to {stories} story(ies) and cannot be deleted"
  | .defaultPackStays => "The default pack cannot be deleted"
  | .nothingToReset templateId =>
    s!"Nothing to reset: The default pack has no template '{templateId}'"

end PromptPacks
