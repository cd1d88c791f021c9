namespace PromptPacks

/-- What kind of value a variable takes. -/
inductive VariableType where
  | text
  | textarea
  | enum
  | number
  | boolean
deriving DecidableEq, Repr

namespace VariableType

/-- All types, in the order in which messages list them. -/
def all : List VariableType :=
  [.text, .textarea, .enum, .number, .boolean]

/-- The spelling of a type in documents and tables. -/
def label : VariableType → String
  | .text => "text"
  | .textarea => "textarea"
  | .enum => "enum"
  | .number => "number"
  | .boolean => "boolean"

def ofLabel? (s : String) : Option VariableType :=
  all.find? (·.label == s)

theorem ofLabel?_label (type : VariableType) : ofLabel? type.label = some type := by
  cases type <;> rfl

end VariableType

/-- Where the value of a variable comes from. -/
inductive VariableCategory where
  /-- The story record. -/
  | system
  /-- The caller, for a single rendering. -/
  | runtime
  /-- The user, who defined the variable in a pack. -/
  | custom
deriving DecidableEq, Repr

namespace VariableCategory

def all : List VariableCategory :=
  [.system, .runtime, .custom]

def label : VariableCategory → String
  | .system => "system"
  | .runtime => "runtime"
  | .custom => "custom"

def ofLabel? (s : String) : Option VariableCategory :=
  all.find? (·.label == s)

theorem ofLabel?_label (category : VariableCategory) :
    ofLabel? category.label = some category := by
  cases category <;> rfl

end VariableCategory

/-- One of the values that an enumeration offers, with the text shown for it. -/
structure EnumOption where
  label : String
  value : String
deriving DecidableEq, Repr

/-- A variable that templates can name. -/
structure VariableDefinition where
  name : String
  displayName : String
  type : VariableType
  category : VariableCategory
  required : Bool
  defaultValue : Option String
  options : Option (List EnumOption)
  description : Option String
deriving DecidableEq, Repr

/-- The options of a definition; a missing list counts as an empty one. -/
def VariableDefinition.optionList (definition : VariableDefinition) : List EnumOption :=
  definition.options.getD []

/-- Why a value does not fit the variable it is meant for. -/
inductive ValueFault where
  | notNumber
  | notBoolean
  | notOption
deriving DecidableEq, Repr

/-- Why a definition is rejected. -/
inductive DefinitionFault where
  | invalidName (name : String)
  | nameTooLong (size : Nat)
  | blankDisplayName
  | displayNameTooLong (size : Nat)
  | noOptions (name : String)
  | emptyOption (name : String)
  | repeatedOption (name value : String)
  | strayOptions (name : String) (type : VariableType)
  | unfitDefault (fault : ValueFault) (name value : String)
deriving DecidableEq, Repr

end PromptPacks
