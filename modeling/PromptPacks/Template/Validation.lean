import PromptPacks.Template.Check
import PromptPacks.Text.Distance
import PromptPacks.Variable.Registry

namespace PromptPacks.Template

open PromptPacks.Text

/-- A problem of a template, as it is shown to its author. -/
inductive Problem where
  | malformed (advice : Advice) (place : Place)
  | functionCall (name : String) (place : Place)
  | unknownVariable (name : String) (suggestion : Option String) (place : Option Place)
  | unknownFilter (name : String) (suggestion : Option String) (place : Option Place)
deriving DecidableEq

namespace Problem

/-- The kinds of problems. -/
inductive Kind where
  | syntactic
  | variable
  | filter
deriving DecidableEq

/-- The kind of a problem. A call counts as an unknown variable. -/
def kind : Problem → Kind
  | .malformed .. => .syntactic
  | .functionCall .. | .unknownVariable .. => .variable
  | .unknownFilter .. => .filter

def name? : Problem → Option String
  | .malformed .. => none
  | .functionCall name _ | .unknownVariable name .. | .unknownFilter name .. => some name

/-- The name that is offered in place of the unknown one. -/
def suggestion? : Problem → Option String
  | .unknownVariable _ suggestion _ | .unknownFilter _ suggestion _ => suggestion
  | _ => none

def place? : Problem → Option Place
  | .malformed _ place | .functionCall _ place => some place
  | .unknownVariable _ _ place | .unknownFilter _ _ place => place

def message : Problem → String
  | .malformed advice _ => advice.text
  | .functionCall name _ =>
    s!"'{name}(...)' is a function call, and functions are not supported in templates. " ++
    "Use a variable or a filter instead."
  | .unknownVariable name (some other) _ => s!"Unknown variable '{name}'. Did you mean '{other}'?"
  | .unknownVariable name none _ =>
    s!"Unknown variable '{name}'. " ++
    "Check the variables list for the names available to this template."
  | .unknownFilter name (some other) _ => s!"Unknown filter '{name}'. Did you mean '{other}'?"
  | .unknownFilter name none _ =>
    let available := ", ".intercalate Filter.known
    s!"Unknown filter '{name}'. Available filters are: {available}."

end Problem

def variableProblem (source : String) (known : List String) (name : String) : Problem :=
  match callPlace? source.toList name with
  | some offset => .functionCall name (placeAt source.toList offset)
  | none =>
    .unknownVariable name (closest? name known)
      ((referenceOffset? source.toList name).map (placeAt source.toList))

def filterProblem (source : String) (name : String) : Problem :=
  let found := (scannedFilters source.toList).find? (·.value == name)
  .unknownFilter name (closest? name Filter.known)
    (found.map fun filter => placeAt source.toList filter.offset)

/-- The problems of a template that may use the names of a registry and some
    additional ones: the fault that keeps it from being read, or else its
    unknown variables and then its unknown filters, each in ascending order. -/
def validate (registry : Registry) (additional : List String) (source : String) : List Problem :=
  match checkSyntax source with
  | .error diagnosis => [.malformed diagnosis.advice diagnosis.place]
  | .ok references =>
    let known := registry.names ++ additional
    let unknown := references.variables.filter fun name =>
      !registry.has name && !additional.contains name
    unknown.map (variableProblem source known)
      ++ (references.filters.filter (!Filter.known.contains ·)).map (filterProblem source)

end PromptPacks.Template
