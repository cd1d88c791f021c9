import PromptPacks.Context.Value
import PromptPacks.Number.FloatText
import PromptPacks.Variable.Registry

namespace PromptPacks

open PromptPacks.Number PromptPacks.Text

/-- The fields of a story that system variables show. -/
structure StoryFacts where
  title : Option String
  genre : Option String
  mode : Option String
  pov : Option String
  tense : Option String
  protagonistName : Option String

/-- The fields of a story with the system variables that show them. Blank fields
    are left out. -/
def StoryFacts.entries (facts : StoryFacts) : List (String × ContextValue) :=
  [("storyTitle", facts.title), ("genre", facts.genre), ("mode", facts.mode), ("pov", facts.pov),
    ("tense", facts.tense), ("protagonistName", facts.protagonistName)].filterMap fun field =>
      (field.2.filter (!isBlankText ·)).map fun value => (field.1, .text value)

/-- The default values of some definitions, coerced by their types. -/
def defaultsLayer (declared : List VariableDefinition) : Context :=
  .ofList (declared.filterMap fun definition =>
    definition.defaultValue.map fun value =>
      (definition.name, ContextValue.coerce value definition.type))

/-- The values of the system variables: their defaults, and on top of them what
    the story says. -/
def systemLayer (registry : Registry) (facts : Option StoryFacts) : Context :=
  (defaultsLayer (registry.ofCategory .system)).overlay
    (.ofList ((facts.map (·.entries)).getD []))

/-- The type of the first variable with a name. -/
def declaredType? (declared : List VariableDefinition) (name : String) : Option VariableType :=
  (declared.find? (·.name == name)).map (·.type)

/-- The values that a story sets itself. Names that the pack does not declare
    are passed on as they are; `null` and objects are left out. -/
def overridesLayer (declared : List VariableDefinition) (overrides : Dictionary Json) : Context :=
  .ofList (overrides.entries.filterMap fun entry =>
    (ContextValue.ofJson? (declaredType? declared entry.1) entry.2).map (entry.1, ·))

/-- The text form of a scalar document, by which it is checked against a
    definition. -/
def scalarText? : Json → Option String
  | .string s => some s
  | .integer n => some (toString n)
  | .float x => some (String.ofList (floatText .interchange x))
  | .bool b => some (if b then "true" else "false")
  | .null | .array _ | .object _ => none

/-- Accepts one value that a story sets: its name has to be declared, and its
    text form has to fit the declaration. -/
def checkOverride (declared : List VariableDefinition) (name : String) (value : Json) :
    Except Refusal Unit :=
  match declared.find? (·.name == name) with
  | none => .error (.violation (.undeclaredOverride name))
  | some definition =>
    match scalarText? value with
    | none => .error (.violation (.compositeOverride name))
    | some text => definition.checkValue text

/-- Accepts values that a story sets, in ascending order of their names. -/
def checkOverrides (declared : List VariableDefinition) (overrides : Dictionary Json) :
    Except Refusal Unit :=
  overrides.entries.forM fun entry => checkOverride declared entry.1 entry.2

/-- The sources of the values of a context. -/
structure ContextLayers where
  system : Context
  defaults : Context
  overrides : Context
  runtime : Context

/-- The context of all layers: runtime values count before those of the story,
    these before the defaults of the pack, and these before the system
    variables. -/
def ContextLayers.resolve (layers : ContextLayers) : Context :=
  ((layers.system.overlay layers.defaults).overlay layers.overrides).overlay layers.runtime

end PromptPacks
