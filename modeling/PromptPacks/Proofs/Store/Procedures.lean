import PromptPacks.Proofs.Store.Requests
import PromptPacks.Proofs.Store.Sessions

namespace PromptPacks

open PromptPacks.Digest PromptPacks.Text PromptPacks.Transaction

namespace Procedure

/-- Notes the time at which a pack has changed. The times of the rows are not
    part of the tables, so the step leaves them as they are, but it may fail as
    every other write may. -/
def touch : Procedure Unit :=
  step (pure ())

def defaultOrNew : Procedure (Pack × Bool) := do
  match ← step (ask (·.defaultPack?)) with
  | some pack => return (pack, false)
  | none =>
    let name := uniqueName defaultPackName (← step (ask (·.packNames)))
    let pack ← step (add (·.insertPack? name (some defaultPackDescription) none true))
    return (pack, true)

def seedTemplate (report : Store.SeedReport) (shipped : ShippedTemplate) :
    Procedure Store.SeedReport := do
  let hash := contentHash shipped.content
  match ← step (ask (·.template? report.packId shipped.id)) with
  | some existing =>
    if existing.hash = hash then return report
    else
      let _ ← step (Store.putTemplate report.packId shipped.id shipped.content hash)
      return { report with refreshed := report.refreshed + 1 }
  | none =>
    let _ ← step (Store.putTemplate report.packId shipped.id shipped.content hash)
    return { report with inserted := report.inserted + 1 }

def seed : Procedure Store.SeedReport := do
  start
  let (pack, created) ← defaultOrNew
  let report ← ShippedTemplate.all.foldlM seedTemplate ⟨pack.id, created, 0, 0⟩
  commit
  return report

def createPack (name : String) (description author : Option String) : Procedure Pack := do
  step (accept (checkPackName name))
  step (accept (checkFreeText "Description" description))
  step (accept (checkFreeText "Author" author))
  step (Store.requireFreeName name none)
  let default ← step requireDefault
  start
  let pack ← step (add (·.insertPack? name description author false))
  step (Store.copyTemplates default.id pack.id)
  step (Store.copyVariables default.id pack.id)
  commit
  return pack

def updatePack (packId : Int) (name description author : Option String) : Procedure Pack := do
  let pack ← step (requireEditable packId)
  match name with
  | some name =>
    step (accept (checkPackName name))
    step (Store.requireFreeName name (some packId))
  | none => pure ()
  step (accept (checkFreeText "Description" description))
  step (accept (checkFreeText "Author" author))
  let row := { pack with
    name := name.getD pack.name
    description := description.or pack.description
    author := author.or pack.author }
  start
  step (change (·.replacePack? row))
  commit
  return row

/-- A pack is deleted after its templates and its variables. -/
def deletePack (packId : Int) : Procedure Unit := do
  let pack ← step (requirePack packId)
  if pack.isDefault then throw (.refused .defaultPackStays)
  let count ← step (ask (·.storyCount packId))
  if 0 < count then throw (.refused (.packInUse packId count))
  start
  step (modify (·.deleteTemplates (·.packId == packId)))
  step (modify (·.deleteVariables (·.packId == packId)))
  step (change (·.deletePack? packId))
  commit
  return ()

def canDeletePack (packId : Int) : Procedure Bool := do
  let pack ← step (requirePack packId)
  let count ← step (ask (·.storyCount packId))
  return !pack.isDefault && count == 0

def templates (packId : Int) : Procedure (List PackTemplate) := do
  let _ ← step (requirePack packId)
  step (ask (·.templatesOf packId))

def setTemplate (registry : Registry) (packId : Int) (templateId content : String) :
    Procedure PackTemplate := do
  if isBlankText templateId then throw (.refused (.violation .blankTemplateId))
  let _ ← step (requireEditable packId)
  step (Store.acceptFor registry packId templateId content)
  start
  let row ← step (Store.putTemplate packId templateId content (contentHash content))
  touch
  commit
  return row

def resetTemplate (packId : Int) (templateId : String) : Procedure PackTemplate := do
  let _ ← step (requireEditable packId)
  let default ← step requireDefault
  let baseline ← step (demand (.nothingToReset templateId) (·.template? default.id templateId))
  start
  let row ← step (Store.putTemplate packId templateId baseline.content baseline.hash)
  touch
  commit
  return row

def resetAll (packId : Int) : Procedure Nat := do
  let _ ← step (requireEditable packId)
  let default ← step requireDefault
  let baseline ← step (ask (·.templatesOf default.id))
  let tables ← step get
  let differing := baseline.filter fun row =>
    (tables.template? packId row.templateId).map (·.hash) != some row.hash
  start
  differing.forM fun row => do
    let _ ← step (Store.putTemplate packId row.templateId row.content row.hash)
  if 0 < differing.length then touch
  commit
  return differing.length

def statuses (packId : Int) : Procedure (List (String × TemplateStatus)) := do
  let pack ← step (requirePack packId)
  let rows ← step (ask (·.templatesOf packId))
  if pack.isDefault then return rows.map fun row => (row.templateId, .unmodified)
  else
    let default ← step requireDefault
    let tables ← step get
    return rows.map fun row =>
      (row.templateId,
        .ofHashes row.hash ((tables.template? default.id row.templateId).map (·.hash)))

def «variables» (packId : Int) : Procedure (List PackVariable) := do
  let _ ← step (requirePack packId)
  step (readVariables packId)

def createVariable (packId : Int) (definition : VariableDefinition) (sortOrder : Option Int) :
    Procedure PackVariable := do
  let _ ← step (requireEditable packId)
  step (accept definition.check)
  step (Store.requireFreeVariable packId definition.name)
  start
  let place ←
    match sortOrder with
    | some place => pure place
    | none => step (Store.nextPlace packId)
  let row ← step (add (·.insertVariable? packId definition place))
  touch
  commit
  return row

def updateVariable (packId variableId : Int) (patch : Store.VariablePatch) :
    Procedure PackVariable := do
  let _ ← step (requireEditable packId)
  let existing ← step (requireVariable packId variableId)
  let definition := patch.apply (← step (readDefinition existing))
  step (accept definition.check)
  if definition.name ≠ existing.name then step (Store.requireFreeVariable packId definition.name)
  let row := PackVariable.ofDefinition existing.id packId definition
    (patch.sortOrder.getD existing.sortOrder)
  start
  step (change (·.replaceVariable? row))
  touch
  commit
  return row

def deleteVariable (packId variableId : Int) : Procedure Unit := do
  let _ ← step (requireEditable packId)
  let _ ← step (requireVariable packId variableId)
  start
  step (modify (·.deleteVariables (·.id == variableId)))
  touch
  commit
  return ()

def exportPack (packId : Int) : Procedure Envelope := do
  let pack ← step (requirePack packId)
  let templates ← step (ask (·.templatesOf packId))
  let rows ← step (readVariables packId)
  let exported ← step (rows.mapM fun row => return ⟨← readDefinition row, row.sortOrder⟩)
  return {
    version := formatVersion
    name := pack.name
    description := pack.description
    author := pack.author
    templates := templates.map fun row => ⟨row.templateId, row.content, some row.hash⟩
    «variables» := exported }

/-- All of an envelope is checked before the transaction begins, in which the
    pack is added and then each template and each variable of it. -/
def importPack (registry : Registry) (envelope : Envelope) : Procedure Pack := do
  step (accept envelope.check)
  let names := envelope.variables.map (·.definition.name)
  envelope.templates.forM fun template =>
    step (acceptTemplate registry names template.templateId template.content)
  let default ← step requireDefault
  start
  let name := uniqueName envelope.name (← step (ask (·.packNames)))
  let pack ← step (add (·.insertPack? name envelope.description envelope.author false))
  envelope.templates.forM fun template => do
    let _ ← step (Store.putTemplate pack.id template.templateId template.content
      (contentHash template.content))
  let given := envelope.templates.map (·.templateId)
  let missing := (← step (ask (·.templatesOf default.id))).filter (!given.contains ·.templateId)
  missing.forM fun row => do
    let _ ← step (Store.putTemplate pack.id row.templateId row.content row.hash)
  envelope.variables.forM fun exported => do
    let _ ← step (add (·.insertVariable? pack.id exported.definition exported.sortOrder))
  commit
  return pack

def assignPack (storyId packId : Int) : Procedure Story := do
  let _ ← step (requirePack packId)
  let story ← step (Store.readStory storyId)
  let row := { story with packId }
  start
  step (change (·.replaceStory? row))
  commit
  return row

def storyValues (storyId : Int) : Procedure (Dictionary Json) := do
  return (← step (Store.readStory storyId)).values

def setStoryValues (storyId : Int) (values : Dictionary Json) : Procedure (Dictionary Json) := do
  let story ← step (Store.readStory storyId)
  let declared ← step (Store.readDefinitions story.packId)
  step (accept (checkOverrides declared values))
  start
  step (change (·.replaceStory? { story with values }))
  commit
  return values

end Procedure

/-- The steps of a request. Its checks and questions come first. What it
    changes, it changes in one transaction. -/
def Request.procedure {α : Type} (registry : Registry) : Request α → Procedure α
  | seed => Procedure.seed
  | packs => Procedure.step Store.packs
  | pack packId => Procedure.step (requirePack packId)
  | defaultPack => Procedure.step requireDefault
  | createPack name description author => Procedure.createPack name description author
  | updatePack packId name description author =>
    Procedure.updatePack packId name description author
  | deletePack packId => Procedure.deletePack packId
  | canDeletePack packId => Procedure.canDeletePack packId
  | templates packId => Procedure.templates packId
  | template packId templateId => Procedure.step (ask (·.template? packId templateId))
  | setTemplate packId templateId content =>
    Procedure.setTemplate registry packId templateId content
  | resetTemplate packId templateId => Procedure.resetTemplate packId templateId
  | resetAll packId => Procedure.resetAll packId
  | statuses packId => Procedure.statuses packId
  | «variables» packId => Procedure.variables packId
  | createVariable packId definition sortOrder =>
    Procedure.createVariable packId definition sortOrder
  | updateVariable packId variableId patch => Procedure.updateVariable packId variableId patch
  | deleteVariable packId variableId => Procedure.deleteVariable packId variableId
  | exportPack packId => Procedure.exportPack packId
  | importPack envelope => Procedure.importPack registry envelope
  | story storyId => Procedure.step (Store.story storyId)
  | assignPack storyId packId => Procedure.assignPack storyId packId
  | storyValues storyId => Procedure.storyValues storyId
  | setStoryValues storyId values => Procedure.setStoryValues storyId values

end PromptPacks
