import PromptPacks.Pack.Catalogue
import PromptPacks.Refusal
import PromptPacks.Store.Tables
import PromptPacks.Template.Validation

namespace PromptPacks

open PromptPacks.Template

/-- Why a request to a store fails. -/
inductive StoreFailure where
  /-- A rule of the store turns the request down. -/
  | refused (refusal : Refusal)
  /-- A template has problems. -/
  | invalidTemplate (templateId : String) (problems : List Problem)
  /-- The tables cannot hold what the request asks for. -/
  | storage
deriving DecidableEq

/-- The wording for a request that fails. There is none for what the tables
    cannot hold. -/
def StoreFailure.message? : StoreFailure → Option String
  | .refused refusal => some refusal.message
  | .invalidTemplate templateId problems =>
    some s!"Template '{templateId}' failed validation with {problems.length} error(s)"
  | .storage => none

/-- A request to a store. It changes the tables only if it succeeds. -/
abbrev Transaction := StateT Tables (Except StoreFailure)

namespace Transaction

def refuse {α : Type} (refusal : Refusal) : Transaction α :=
  throw (.refused refusal)

def accept (rule : Except Refusal Unit) : Transaction Unit :=
  match rule with
  | .ok () => pure ()
  | .error refusal => refuse refusal

def ask {α : Type} (question : Tables → α) : Transaction α := do
  return question (← get)

/-- The answer of the tables to a question that has to have one. -/
def demand {α : Type} (refusal : Refusal) (question : Tables → Option α) : Transaction α := do
  match question (← get) with
  | some answer => return answer
  | none => refuse refusal

def change (update : Tables → Option Tables) : Transaction Unit := do
  match update (← get) with
  | some tables => set tables
  | none => throw .storage

/-- Changes the tables and gives back the new row, if they allow it. -/
def add {α : Type} (insert : Tables → Option (α × Tables)) : Transaction α := do
  match insert (← get) with
  | some (row, tables) =>
    set tables
    return row
  | none => throw .storage

/-- The pack with an identifier, which has to exist. -/
def requirePack (packId : Int) : Transaction Pack :=
  demand (.notFound .pack (toString packId)) (·.pack? packId)

/-- The pack with an identifier, which has to exist and to be open to changes. -/
def requireEditable (packId : Int) : Transaction Pack := do
  let pack ← requirePack packId
  if pack.isDefault then refuse (.violation .readOnlyDefault) else return pack

def requireDefault : Transaction Pack :=
  demand (.notFound .pack "default") (·.defaultPack?)

/-- Accepts a template that has no problem, for a registry and the custom
    variables of a pack. The text of an external template may be anything. -/
def acceptTemplate (registry : Registry) (declared : List String)
    (templateId content : String) : Transaction Unit := do
  if ShippedTemplate.isExternalId templateId then return
  let known := declared ++ ShippedTemplate.runtimeVariablesOf templateId
  let problems := validate registry known content
  if !problems.isEmpty then throw (.invalidTemplate templateId problems)

end Transaction

end PromptPacks
