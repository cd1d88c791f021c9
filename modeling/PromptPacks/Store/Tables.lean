import PromptPacks.Dictionary
import PromptPacks.Json.Value
import PromptPacks.Number.Decimal
import PromptPacks.Variable.Definition

namespace PromptPacks

/-- A pack: a set of templates and variables under a name. When a row was
    created and changed last is not kept, here and in the other tables: no rule
    looks at it. -/
structure Pack where
  id : Int
  name : String
  description : Option String
  author : Option String
  isDefault : Bool
deriving DecidableEq, Repr

/-- A template of a pack, with the hash of its content. The pack and the
    identifier tell it from all others, so that no number is kept beside them. -/
structure PackTemplate where
  packId : Int
  templateId : String
  content : String
  hash : String
deriving DecidableEq, Repr

/-- A custom variable of a pack, with its place in the display order. -/
structure PackVariable where
  id : Int
  packId : Int
  name : String
  displayName : String
  type : VariableType
  required : Bool
  defaultValue : Option String
  options : Option (List EnumOption)
  description : Option String
  sortOrder : Int
deriving DecidableEq, Repr

/-- A story, with the pack that it uses and the values that it sets itself. -/
structure Story where
  id : Int
  title : String
  genre : Option String
  mode : String
  pov : Option String
  tense : Option String
  protagonistName : Option String
  packId : Int
  values : Dictionary Json

/-- The tables of a store. Rows stand in the order of their insertion, and each
    counter tells the identifier that was given out last. Counters have no
    bound, where a table would run out of identifiers after as many insertions
    as there are numbers of 64 bits. -/
structure Tables where
  packs : List Pack
  templates : List PackTemplate
  «variables» : List PackVariable
  stories : List Story
  lastPack : Nat
  lastVariable : Nat
  lastStory : Nat

def PackVariable.definition (row : PackVariable) : VariableDefinition :=
  ⟨row.name, row.displayName, row.type, .custom, row.required, row.defaultValue, row.options,
    row.description⟩

def PackVariable.ofDefinition (id packId : Int) (definition : VariableDefinition)
    (sortOrder : Int) : PackVariable :=
  ⟨id, packId, definition.name, definition.displayName, definition.type, definition.required,
    definition.defaultValue, definition.options, definition.description, sortOrder⟩

namespace Tables

def empty : Tables :=
  ⟨[], [], [], [], 0, 0, 0⟩

def pack? (tables : Tables) (packId : Int) : Option Pack :=
  tables.packs.find? (·.id == packId)

def packNamed? (tables : Tables) (name : String) : Option Pack :=
  tables.packs.find? (·.name == name)

def defaultPack? (tables : Tables) : Option Pack :=
  tables.packs.find? (·.isDefault)

/-- The order of packs in lists: the default pack first, then by name. -/
def isListedBefore (a b : Pack) : Bool :=
  if a.isDefault = b.isDefault then decide (a.name < b.name) || (a.name == b.name && a.id ≤ b.id)
  else a.isDefault

def listedPacks (tables : Tables) : List Pack :=
  tables.packs.mergeSort isListedBefore

def packNames (tables : Tables) : List String :=
  (tables.packs.map (·.name)).mergeSort fun a b => decide (a ≤ b)

def templatesOf (tables : Tables) (packId : Int) : List PackTemplate :=
  (tables.templates.filter (·.packId == packId)).mergeSort fun a b =>
    decide (a.templateId ≤ b.templateId)

def template? (tables : Tables) (packId : Int) (templateId : String) : Option PackTemplate :=
  tables.templates.find? fun row => row.packId == packId && row.templateId == templateId

/-- The variables of a pack in display order; those with equal places stand by
    their age. -/
def variablesOf (tables : Tables) (packId : Int) : List PackVariable :=
  (tables.variables.filter (·.packId == packId)).mergeSort fun a b =>
    decide (a.sortOrder < b.sortOrder) || (a.sortOrder == b.sortOrder && decide (a.id ≤ b.id))

def variableRow? (tables : Tables) (variableId : Int) : Option PackVariable :=
  tables.variables.find? (·.id == variableId)

def variableNamed? (tables : Tables) (packId : Int) (name : String) : Option PackVariable :=
  tables.variables.find? fun row => row.packId == packId && row.name == name

def story? (tables : Tables) (storyId : Int) : Option Story :=
  tables.stories.find? (·.id == storyId)

def storyCount (tables : Tables) (packId : Int) : Nat :=
  tables.stories.countP (·.packId == packId)

/-- The greatest place in the display order of a pack. -/
def lastPlace? (tables : Tables) (packId : Int) : Option Int :=
  ((tables.variables.filter (·.packId == packId)).map (·.sortOrder)).max?

/-- Adds a pack. Names are distinct, and at most one pack is the default one. -/
def insertPack? (tables : Tables) (name : String) (description author : Option String)
    (isDefault : Bool) : Option (Pack × Tables) :=
  if (tables.packNamed? name).isSome || (isDefault && tables.defaultPack?.isSome) then none
  else
    let row : Pack := ⟨tables.lastPack + 1, name, description, author, isDefault⟩
    some (row, { tables with
      packs := tables.packs ++ [row]
      lastPack := tables.lastPack + 1 })

/-- Replaces the pack with the same identifier. Names stay distinct. -/
def replacePack? (tables : Tables) (row : Pack) : Option Tables :=
  if tables.packs.any fun other => other.name == row.name && other.id != row.id then none
  else
    some { tables with
      packs := tables.packs.map fun other => if other.id == row.id then row else other }

/-- Removes a pack with its templates and variables. No story may use it. -/
def deletePack? (tables : Tables) (packId : Int) : Option Tables :=
  if tables.stories.any (·.packId == packId) then none
  else
    some { tables with
      packs := tables.packs.filter (·.id != packId)
      templates := tables.templates.filter (·.packId != packId)
      «variables» := tables.variables.filter (·.packId != packId) }

/-- Adds a template to an existing pack that has none with the same identifier. -/
def insertTemplate? (tables : Tables) (row : PackTemplate) : Option Tables :=
  if (tables.pack? row.packId).isNone || (tables.template? row.packId row.templateId).isSome then
    none
  else some { tables with templates := tables.templates ++ [row] }

/-- Adds a template to an existing pack, or replaces the one with the same
    identifier. -/
def putTemplate? (tables : Tables) (row : PackTemplate) : Option Tables :=
  if (tables.template? row.packId row.templateId).isSome then
    some { tables with
      templates := tables.templates.map fun other =>
        if other.packId == row.packId && other.templateId == row.templateId then row else other }
  else if (tables.pack? row.packId).isSome then
    some { tables with templates := tables.templates ++ [row] }
  else none

/-- Removes the templates that satisfy a condition. -/
def deleteTemplates (tables : Tables) (condition : PackTemplate → Bool) : Tables :=
  { tables with templates := tables.templates.filter (!condition ·) }

/-- The spellings of types that the table of variables takes. They are a list of
    their own, beside the spellings that types have. -/
def storedTypes : List String :=
  ["text", "textarea", "enum", "number", "boolean"]

/-- Adds a variable to an existing pack. The names of one pack are distinct, and
    the type is spelled as one that can be stored. -/
def insertVariable? (tables : Tables) (packId : Int) (definition : VariableDefinition)
    (sortOrder : Int) : Option (PackVariable × Tables) :=
  if (tables.pack? packId).isNone || (tables.variableNamed? packId definition.name).isSome ||
    !storedTypes.contains definition.type.label then none
  else
    let row := PackVariable.ofDefinition (tables.lastVariable + 1) packId definition sortOrder
    some (row, { tables with
      «variables» := tables.variables ++ [row]
      lastVariable := tables.lastVariable + 1 })

/-- Replaces the variable with the same identifier. The names of one pack stay
    distinct, and the type is spelled as one that can be stored. -/
def replaceVariable? (tables : Tables) (row : PackVariable) : Option Tables :=
  let clashes := tables.variables.any fun other =>
    other.packId == row.packId && other.name == row.name && other.id != row.id
  if clashes || !storedTypes.contains row.type.label then none
  else
    some { tables with
      «variables» := tables.variables.map fun other => if other.id == row.id then row else other }

/-- Removes the variables that satisfy a condition. -/
def deleteVariables (tables : Tables) (condition : PackVariable → Bool) : Tables :=
  { tables with «variables» := tables.variables.filter (!condition ·) }

/-- Adds a story to an existing pack. The identifier of the given row is not
    used. -/
def insertStory? (tables : Tables) (story : Story) : Option (Story × Tables) :=
  if (tables.pack? story.packId).isNone then none
  else
    let row := { story with id := tables.lastStory + 1 }
    some (row, { tables with
      stories := tables.stories ++ [row]
      lastStory := tables.lastStory + 1 })

/-- Replaces the story with the same identifier. Its pack has to exist. -/
def replaceStory? (tables : Tables) (row : Story) : Option Tables :=
  if (tables.pack? row.packId).isNone then none
  else
    some { tables with
      stories := tables.stories.map fun other => if other.id == row.id then row else other }

end Tables

end PromptPacks
