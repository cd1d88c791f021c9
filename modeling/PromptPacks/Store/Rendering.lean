import PromptPacks.Store.Stories
import PromptPacks.Template.Check

namespace PromptPacks.Store

open Transaction PromptPacks.Template

/-- A rendering to come: for a story or for none, with values for this rendering
    only. -/
structure Rendering where
  storyId : Option Int
  runtime : Context

namespace Rendering

def start (storyId : Option Int) : Rendering :=
  ⟨storyId, .empty⟩

/-- A rendering with further values. Of several values of one name the last
    counts. -/
def add (rendering : Rendering) (values : Context) : Rendering :=
  { rendering with runtime := rendering.runtime.overlay values }

/-- The story of a rendering, and the pack that it uses. Without a story it is
    the default pack. -/
def resolvePack (rendering : Rendering) : Transaction (Option Story × Int) := do
  match rendering.storyId with
  | some storyId =>
    let story ← readStory storyId
    return (some story, story.packId)
  | none => return (none, (← requireDefault).id)

/-- The content of a template: that of the pack, or else that of the default
    pack, or else the shipped one. -/
def contentOf (packId : Int) (templateId : String) : Transaction String := do
  match ← ask (·.template? packId templateId) with
  | some row => return row.content
  | none =>
    let default ← requireDefault
    match ← ask (·.template? default.id templateId) with
    | some row => return row.content
    | none =>
      match ShippedTemplate.find? templateId with
      | some shipped => return shipped.content
      | none => refuse (.notFound .template templateId)

def contextFor (registry : Registry) (runtime : Context) (story : Option Story) (packId : Int) :
    Transaction Context := do
  let declared ← readDefinitions packId
  let layers : ContextLayers := {
    system := systemLayer registry (story.map Story.facts)
    defaults := defaultsLayer declared
    overrides := (story.map fun story => overridesLayer declared story.values).getD .empty
    runtime }
  return layers.resolve

/-- The values with which a template would be rendered. -/
def context (registry : Registry) (rendering : Rendering) : Transaction Context := do
  let (story, packId) ← rendering.resolvePack
  contextFor registry rendering.runtime story packId

/-- The text of a template for a rendering. An external template is given back
    as it is. -/
def output (registry : Registry) (rendering : Rendering) (templateId : String) :
    Transaction String := do
  let (story, packId) ← rendering.resolvePack
  let content ← contentOf packId templateId
  if ShippedTemplate.isExternalId templateId then return content
  else
    let context ← contextFor registry rendering.runtime story packId
    return render content context

end Rendering

end PromptPacks.Store
