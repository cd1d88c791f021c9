import PromptPacks.Pack.Envelope
import PromptPacks.Store.Templates
import PromptPacks.Store.VariableRecord

namespace PromptPacks.Store

open Transaction PromptPacks.Digest

/-- A pack in the form in which it is exchanged, its templates by their
    identifiers and its variables in display order. -/
def exportPack (packId : Int) : Transaction Envelope := do
  let pack ← requirePack packId
  let templates ← ask (·.templatesOf packId)
  let rows ← readVariables packId
  let exported ← rows.mapM fun row => return ⟨← readDefinition row, row.sortOrder⟩
  return {
    version := formatVersion
    name := pack.name
    description := pack.description
    author := pack.author
    templates := templates.map fun row => ⟨row.templateId, row.content, some row.hash⟩
    «variables» := exported }

/-- Creates a pack from an exported one. Nothing is written before all of it is
    accepted. A name that is in use gets a number, templates that are missing
    are taken from the default pack, and the hashes are computed anew. -/
def importPack (registry : Registry) (envelope : Envelope) : Transaction Pack := do
  accept envelope.check
  let names := envelope.variables.map (·.definition.name)
  envelope.templates.forM fun template =>
    acceptTemplate registry names template.templateId template.content
  let default ← requireDefault
  let name := uniqueName envelope.name (← ask (·.packNames))
  let pack ← add (·.insertPack? name envelope.description envelope.author false)
  envelope.templates.forM fun template => do
    let _ ← putTemplate pack.id template.templateId template.content (contentHash template.content)
  let given := envelope.templates.map (·.templateId)
  let missing := (← ask (·.templatesOf default.id)).filter (!given.contains ·.templateId)
  missing.forM fun row => do
    let _ ← putTemplate pack.id row.templateId row.content row.hash
  envelope.variables.forM fun exported => do
    let _ ← add (·.insertVariable? pack.id exported.definition exported.sortOrder)
  return pack

end PromptPacks.Store
