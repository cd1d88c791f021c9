import PromptPacks.Store.VariableRecord
import PromptPacks.Variable.Rules

namespace PromptPacks.Store

open Transaction PromptPacks.Number

/-- The changes to a custom variable. A field that is not given stays; the
    optional ones can also be cleared. -/
structure VariablePatch where
  name : Option String
  displayName : Option String
  type : Option VariableType
  required : Option Bool
  defaultValue : Option (Option String)
  options : Option (Option (List EnumOption))
  description : Option (Option String)
  sortOrder : Option Int

def VariablePatch.apply (patch : VariablePatch) (definition : VariableDefinition) :
    VariableDefinition where
  name := patch.name.getD definition.name
  displayName := patch.displayName.getD definition.displayName
  type := patch.type.getD definition.type
  category := definition.category
  required := patch.required.getD definition.required
  defaultValue := patch.defaultValue.getD definition.defaultValue
  options := patch.options.getD definition.options
  description := patch.description.getD definition.description

/-- The custom variables of a pack in display order. -/
def «variables» (packId : Int) : Transaction (List PackVariable) := do
  let _ ← requirePack packId
  readVariables packId

/-- The place after all variables of a pack. There is none after the greatest
    place. -/
def nextPlace (packId : Int) : Transaction Int := do
  match ← ask (·.lastPlace? packId) with
  | some place => if place < maxInt64 then return place + 1 else throw .storage
  | none => return 0

def requireFreeVariable (packId : Int) (name : String) : Transaction Unit := do
  match ← ask (·.variableNamed? packId name) with
  | some row => refuse (.nameTaken .variable (← readVariable row).name)
  | none => pure ()

/-- Adds a custom variable to a pack: at the given place, or after all others. -/
def createVariable (packId : Int) (definition : VariableDefinition) (sortOrder : Option Int) :
    Transaction PackVariable := do
  let _ ← requireEditable packId
  accept definition.check
  requireFreeVariable packId definition.name
  let place ←
    match sortOrder with
    | some place => pure place
    | none => nextPlace packId
  add (·.insertVariable? packId definition place)

def updateVariable (packId variableId : Int) (patch : VariablePatch) :
    Transaction PackVariable := do
  let _ ← requireEditable packId
  let existing ← requireVariable packId variableId
  let definition := patch.apply (← readDefinition existing)
  accept definition.check
  if definition.name ≠ existing.name then requireFreeVariable packId definition.name
  let row := PackVariable.ofDefinition existing.id packId definition
    (patch.sortOrder.getD existing.sortOrder)
  change (·.replaceVariable? row)
  return row

def deleteVariable (packId variableId : Int) : Transaction Unit := do
  let _ ← requireEditable packId
  let _ ← requireVariable packId variableId
  modify (·.deleteVariables (·.id == variableId))

end PromptPacks.Store
