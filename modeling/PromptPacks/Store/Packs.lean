import PromptPacks.Pack.Rules
import PromptPacks.Store.Transaction

namespace PromptPacks.Store

open Transaction

def requireFreeName (name : String) (except : Option Int) : Transaction Unit := do
  match ← ask (·.packNamed? name) with
  | some other => if some other.id = except then pure () else refuse (.nameTaken .pack name)
  | none => pure ()

/-- Adds a copy of each template of one pack to another one, which must have
    none of them. -/
def copyTemplates (source target : Int) : Transaction Unit := do
  let rows ← ask fun tables => tables.templates.filter (·.packId == source)
  rows.forM fun row => change (·.insertTemplate? { row with packId := target })

/-- Adds a copy of each variable of one pack to another one. -/
def copyVariables (source target : Int) : Transaction Unit := do
  let rows ← ask fun tables => tables.variables.filter (·.packId == source)
  rows.forM fun row => do
    let _ ← add (·.insertVariable? target row.definition row.sortOrder)

/-- All packs, the default one first and the others by name. -/
def packs : Transaction (List Pack) :=
  ask (·.listedPacks)

/-- Creates a pack with a copy of everything in the default pack. -/
def createPack (name : String) (description author : Option String) : Transaction Pack := do
  accept (checkPackName name)
  accept (checkFreeText "Description" description)
  accept (checkFreeText "Author" author)
  requireFreeName name none
  let default ← requireDefault
  let pack ← add (·.insertPack? name description author false)
  copyTemplates default.id pack.id
  copyVariables default.id pack.id
  return pack

/-- Changes the name, the description or the author of a pack. What is not given
    stays. -/
def updatePack (packId : Int) (name description author : Option String) : Transaction Pack := do
  let pack ← requireEditable packId
  match name with
  | some name =>
    accept (checkPackName name)
    requireFreeName name (some packId)
  | none => pure ()
  accept (checkFreeText "Description" description)
  accept (checkFreeText "Author" author)
  let row := { pack with
    name := name.getD pack.name
    description := description.or pack.description
    author := author.or pack.author }
  change (·.replacePack? row)
  return row

/-- Deletes a pack with its templates and variables. The default pack and packs
    that stories use stay. -/
def deletePack (packId : Int) : Transaction Unit := do
  let pack ← requirePack packId
  if pack.isDefault then refuse .defaultPackStays
  let count ← ask (·.storyCount packId)
  if 0 < count then refuse (.packInUse packId count)
  change (·.deletePack? packId)

def canDeletePack (packId : Int) : Transaction Bool := do
  let pack ← requirePack packId
  let count ← ask (·.storyCount packId)
  return !pack.isDefault && count == 0

end PromptPacks.Store
