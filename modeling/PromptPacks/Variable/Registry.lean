import PromptPacks.Dictionary
import PromptPacks.Variable.Rules

namespace PromptPacks

/-- The definitions that templates may rely on, by name. -/
structure Registry where
  definitions : Dictionary VariableDefinition

namespace Registry

def empty : Registry :=
  ⟨.empty⟩

def has (registry : Registry) (name : String) : Bool :=
  registry.definitions.contains name

def get? (registry : Registry) (name : String) : Option VariableDefinition :=
  registry.definitions.get? name

def names (registry : Registry) : List String :=
  registry.definitions.names

/-- The definitions of one category in ascending order of their names. -/
def ofCategory (registry : Registry) (category : VariableCategory) : List VariableDefinition :=
  (registry.definitions.entries.map (·.2)).filter (·.category = category)

def put (registry : Registry) (definition : VariableDefinition) : Registry :=
  ⟨registry.definitions.insert definition.name definition⟩

/-- Adds a definition without fault whose name is still free. -/
def register (registry : Registry) (definition : VariableDefinition) : Except Refusal Registry :=
  match definition.check with
  | .error refusal => .error refusal
  | .ok () =>
    if registry.has definition.name then .error (.nameTaken .variable definition.name)
    else .ok (registry.put definition)

/-- Accepts definitions without fault whose names are free and distinct; `batch`
    holds the names of those already accepted. -/
def checkBatch (registry : Registry) (batch : List String) :
    List VariableDefinition → Except Refusal Unit
  | [] => .ok ()
  | definition :: rest =>
    match definition.check with
    | .error refusal => .error refusal
    | .ok () =>
      if registry.has definition.name || batch.contains definition.name then
        .error (.nameTaken .variable definition.name)
      else checkBatch registry (definition.name :: batch) rest

def registerMany (registry : Registry) (definitions : List VariableDefinition) :
    Except Refusal Registry :=
  match registry.checkBatch [] definitions with
  | .error refusal => .error refusal
  | .ok () => .ok (definitions.foldl put registry)

def remove (registry : Registry) (name : String) : Registry :=
  ⟨registry.definitions.erase name⟩

def size (registry : Registry) : Nat :=
  registry.definitions.size

end Registry

end PromptPacks
