import PromptPacks.Store.Templates

namespace PromptPacks.Store

open Transaction PromptPacks.Digest

/-- What a seeding has changed. -/
structure SeedReport where
  packId : Int
  createdPack : Bool
  inserted : Nat
  refreshed : Nat
deriving DecidableEq, Repr

/-- The default pack, which is created if there is none, and whether it was
    created. -/
def defaultOrNew : Transaction (Pack × Bool) := do
  match ← ask (·.defaultPack?) with
  | some pack => return (pack, false)
  | none =>
    let name := uniqueName defaultPackName (← ask (·.packNames))
    let pack ← add (·.insertPack? name (some defaultPackDescription) none true)
    return (pack, true)

/-- Brings one template of the default pack in line with the shipped one. -/
def seedTemplate (report : SeedReport) (shipped : ShippedTemplate) : Transaction SeedReport := do
  let hash := contentHash shipped.content
  match ← ask (·.template? report.packId shipped.id) with
  | some existing =>
    if existing.hash = hash then return report
    else
      let _ ← putTemplate report.packId shipped.id shipped.content hash
      return { report with refreshed := report.refreshed + 1 }
  | none =>
    let _ ← putTemplate report.packId shipped.id shipped.content hash
    return { report with inserted := report.inserted + 1 }

/-- Brings the default pack in line with the shipped templates. A second seeding
    changes nothing. -/
def seed : Transaction SeedReport := do
  let (pack, created) ← defaultOrNew
  ShippedTemplate.all.foldlM seedTemplate ⟨pack.id, created, 0, 0⟩

end PromptPacks.Store
