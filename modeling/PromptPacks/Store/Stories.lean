import PromptPacks.Context.Layers
import PromptPacks.Store.StoryRecord
import PromptPacks.Store.VariableRecord

namespace PromptPacks

def defaultMode : String := "adventure"

/-- What a story tells the system variables. -/
def Story.facts (story : Story) : StoryFacts where
  title := some story.title
  genre := story.genre
  mode := some story.mode
  pov := story.pov
  tense := story.tense
  protagonistName := story.protagonistName

namespace Store

open Transaction

/-- Adds a story. Its pack has to exist. -/
def createStory (title : String) (genre mode pov tense protagonistName : Option String)
    (packId : Int) : Transaction Story :=
  add (·.insertStory? ⟨0, title, genre, mode.getD defaultMode, pov, tense, protagonistName, packId,
    .empty⟩)

def story (storyId : Int) : Transaction Story :=
  readStory storyId

/-- Makes a story use a pack. The values that it sets itself stay. -/
def assignPack (storyId packId : Int) : Transaction Story := do
  let _ ← requirePack packId
  let story ← readStory storyId
  let row := { story with packId }
  change (·.replaceStory? row)
  return row

def storyValues (storyId : Int) : Transaction (Dictionary Json) := do
  return (← readStory storyId).values

/-- Replaces the values that a story sets itself. Each has to fit a variable of
    its pack. -/
def setStoryValues (storyId : Int) (values : Dictionary Json) :
    Transaction (Dictionary Json) := do
  let story ← readStory storyId
  accept (checkOverrides (← readDefinitions story.packId) values)
  change (·.replaceStory? { story with values })
  return values

end Store

end PromptPacks
