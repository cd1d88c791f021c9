import PromptPacks.Digest.Content
import PromptPacks.Pack.Rules
import PromptPacks.Store.VariableRecord

namespace PromptPacks.Store

open Transaction PromptPacks.Digest PromptPacks.Text

def templates (packId : Int) : Transaction (List PackTemplate) := do
  let _ ← requirePack packId
  ask (·.templatesOf packId)

/-- Adds a template to a pack, or gives new content to it. -/
def putTemplate (packId : Int) (templateId content hash : String) : Transaction PackTemplate := do
  let row : PackTemplate := ⟨packId, templateId, content, hash⟩
  change (·.putTemplate? row)
  return row

/-- Accepts a template for a pack, whose variables are read unless the text may
    be anything. -/
def acceptFor (registry : Registry) (packId : Int) (templateId content : String) :
    Transaction Unit := do
  if ShippedTemplate.isExternalId templateId then return
  let rows ← readVariables packId
  acceptTemplate registry (rows.map (·.name)) templateId content

/-- Gives new content to a template of a pack. Unless it is an external one, the
    content must have no problem. It is kept as it is given. -/
def setTemplate (registry : Registry) (packId : Int) (templateId content : String) :
    Transaction PackTemplate := do
  if isBlankText templateId then refuse (.violation .blankTemplateId)
  let _ ← requireEditable packId
  acceptFor registry packId templateId content
  putTemplate packId templateId content (contentHash content)

/-- Gives a template of a pack the content that it has in the default pack. -/
def resetTemplate (packId : Int) (templateId : String) : Transaction PackTemplate := do
  let _ ← requireEditable packId
  let default ← requireDefault
  let baseline ← demand (.nothingToReset templateId) (·.template? default.id templateId)
  putTemplate packId templateId baseline.content baseline.hash

/-- Gives all templates of a pack that differ from those of the default pack the
    content that they have there, and tells their number. -/
def resetAll (packId : Int) : Transaction Nat := do
  let _ ← requireEditable packId
  let default ← requireDefault
  let baseline ← ask (·.templatesOf default.id)
  let tables ← get
  let differing := baseline.filter fun row =>
    (tables.template? packId row.templateId).map (·.hash) != some row.hash
  differing.forM fun row => do
    let _ ← putTemplate packId row.templateId row.content row.hash
  return differing.length

def statuses (packId : Int) : Transaction (List (String × TemplateStatus)) := do
  let pack ← requirePack packId
  let rows ← ask (·.templatesOf packId)
  if pack.isDefault then return rows.map fun row => (row.templateId, .unmodified)
  else
    let default ← requireDefault
    let tables ← get
    return rows.map fun row =>
      (row.templateId,
        .ofHashes row.hash ((tables.template? default.id row.templateId).map (·.hash)))

end PromptPacks.Store
