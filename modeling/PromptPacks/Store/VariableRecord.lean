import PromptPacks.Json.Reader
import PromptPacks.Json.Writer
import PromptPacks.Store.Transaction
import PromptPacks.Variable.Document
import PromptPacks.Variable.Rules

namespace PromptPacks

/-- A custom variable as a table holds it: its type by the spelling, and its
    options as the text of a document. -/
structure VariableRecord where
  id : Int
  packId : Int
  name : String
  displayName : String
  type : String
  required : Bool
  defaultValue : Option String
  options : Option String
  description : Option String
  sortOrder : Int
deriving DecidableEq, Repr

def PackVariable.record (row : PackVariable) : VariableRecord where
  id := row.id
  packId := row.packId
  name := row.name
  displayName := row.displayName
  type := row.type.label
  required := row.required
  defaultValue := row.defaultValue
  options := row.options.map fun options => String.ofList (optionsToJson options).write
  description := row.description
  sortOrder := row.sortOrder

namespace VariableRecord

/-- The options of a record, which may have none, if their text can be read. -/
def readOptions? (record : VariableRecord) : Option (Option (List EnumOption)) :=
  match record.options with
  | none => some none
  | some text => ((Json.parse? text.toList).bind (Json.items? EnumOption.ofJson?)).map some

/-- The definition that a record stands for. The table is broken if the options
    cannot be read; a spelling that no type has is refused. -/
def definition (record : VariableRecord) : Except StoreFailure VariableDefinition :=
  match record.readOptions? with
  | none => .error .storage
  | some options =>
    match VariableType.parse record.type with
    | .error refusal => .error (.refused refusal)
    | .ok type => .ok ⟨record.name, record.displayName, type, .custom, record.required,
        record.defaultValue, options, record.description⟩

end VariableRecord

namespace Transaction

/-- A variable as it is read from its record. The table is broken if the options
    cannot be read. -/
def readVariable (row : PackVariable) : Transaction PackVariable :=
  match row.record.readOptions? with
  | some options => return { row with options }
  | none => throw .storage

/-- The variables of a pack in display order, as they are read from their
    records. -/
def readVariables (packId : Int) : Transaction (List PackVariable) := do
  (← ask (·.variablesOf packId)).mapM readVariable

/-- The definition that a variable stands for by its record. -/
def readDefinition (row : PackVariable) : Transaction VariableDefinition :=
  liftM row.record.definition

/-- The variable with an identifier, which has to belong to the given pack. It
    is read before its pack is compared with the given one. -/
def requireVariable (packId variableId : Int) : Transaction PackVariable := do
  let missing := .notFound .customVariable (toString variableId)
  let row ← readVariable (← demand missing (·.variableRow? variableId))
  if row.packId = packId then return row else refuse missing

end Transaction

namespace Store

open Transaction

/-- The definitions of a pack in display order, from the records of its
    variables. All options are read before the first type is looked up. -/
def readDefinitions (packId : Int) : Transaction (List VariableDefinition) := do
  (← readVariables packId).mapM readDefinition

end Store

end PromptPacks
