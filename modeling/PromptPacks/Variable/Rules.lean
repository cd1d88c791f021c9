import PromptPacks.Number.Decimal
import PromptPacks.Refusal
import PromptPacks.Text.Blank
import PromptPacks.Text.Word

namespace PromptPacks

open PromptPacks.Number PromptPacks.Text

/-- Names that the template language keeps for itself. -/
def reservedNames : List String :=
  ["and", "or", "not", "in", "is", "if", "elif", "elsif", "else", "endif", "for", "endfor", "set",
    "true", "false", "none", "True", "False", "None", "loop"]

/-- Whether a text has the form of a name: a letter or underscore, then letters,
    digits and underscores, of ASCII only. -/
def hasNameForm (name : String) : Bool :=
  match name.toList with
  | [] => false
  | c :: rest => isNameStart c && rest.all isNameChar

/-- Whether templates can refer to a variable by this name. -/
def isValidName (name : String) : Bool :=
  hasNameForm name && !reservedNames.contains name

/-- The truth value that a text stands for. White space around it and the case
    of its letters do not matter. -/
def readBool? (s : String) : Option Bool :=
  let word := String.ofList ((trim s.toList).map Char.toLower)
  if ["true", "1", "yes", "on"].contains word then some true
  else if ["false", "0", "no", "off"].contains word then some false
  else none

/-- Whether a value fits a definition, and if not, why. -/
def VariableDefinition.valueFault? (definition : VariableDefinition) (value : String) :
    Option ValueFault :=
  match definition.type with
  | .number => if (readFloat? (trim value.toList)).isSome then none else some .notNumber
  | .boolean => if (readBool? value).isSome then none else some .notBoolean
  | .enum => if definition.optionList.any (·.value == value) then none else some .notOption
  | .text | .textarea => none

/-- The first fault in a list of options, given the values already seen. -/
def optionFault? (name : String) (seen : List String) : List EnumOption → Option DefinitionFault
  | [] => none
  | option :: rest =>
    if option.value.isEmpty then some (.emptyOption name)
    else if seen.contains option.value then some (.repeatedOption name option.value)
    else optionFault? name (option.value :: seen) rest

/-- The fault in the options of a definition. Only enumerations have options,
    and they need some. -/
def VariableDefinition.optionsFault? (definition : VariableDefinition) : Option DefinitionFault :=
  match definition.type with
  | .enum =>
    if definition.optionList.isEmpty then some (.noOptions definition.name)
    else optionFault? definition.name [] definition.optionList
  | type =>
    if definition.optionList.isEmpty then none else some (.strayOptions definition.name type)

/-- The fault in the default value of a definition. -/
def VariableDefinition.defaultFault? (definition : VariableDefinition) : Option DefinitionFault :=
  definition.defaultValue.bind fun value =>
    (definition.valueFault? value).map (.unfitDefault · definition.name value)

/-- The first fault of a definition: its name, its display name, its options,
    its default value. The two lengths are sizes in bytes. -/
def VariableDefinition.fault? (definition : VariableDefinition) : Option DefinitionFault :=
  if !isValidName definition.name then some (.invalidName definition.name)
  else if maxVariableName < definition.name.utf8ByteSize then
    some (.nameTooLong definition.name.utf8ByteSize)
  else if isBlankText definition.displayName then some .blankDisplayName
  else if maxDisplayName < definition.displayName.utf8ByteSize then
    some (.displayNameTooLong definition.displayName.utf8ByteSize)
  else definition.optionsFault?.or definition.defaultFault?

def VariableDefinition.check (definition : VariableDefinition) : Except Refusal Unit :=
  match definition.fault? with
  | some fault => .error (.violation (.definition fault))
  | none => .ok ()

def VariableDefinition.checkValue (definition : VariableDefinition) (value : String) :
    Except Refusal Unit :=
  match definition.valueFault? value with
  | some fault => .error (.violation (.value fault definition.name value))
  | none => .ok ()

/-- The variable type with a given spelling, or a refusal that lists all of
    them. -/
def VariableType.parse (spelling : String) : Except Refusal VariableType :=
  match VariableType.ofLabel? spelling with
  | some type => .ok type
  | none => .error (.violation (.unknownType spelling))

end PromptPacks
