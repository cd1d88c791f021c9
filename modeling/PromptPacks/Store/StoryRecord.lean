import PromptPacks.Json.Part
import PromptPacks.Json.Reader
import PromptPacks.Json.Writer
import PromptPacks.Store.Transaction

namespace PromptPacks

/-- A story as a table holds it: the values that it sets itself as the text of a
    document. -/
structure StoryRecord where
  id : Int
  title : String
  genre : Option String
  mode : String
  pov : Option String
  tense : Option String
  protagonistName : Option String
  packId : Int
  values : String
deriving DecidableEq, Repr

def Story.record (story : Story) : StoryRecord where
  id := story.id
  title := story.title
  genre := story.genre
  mode := story.mode
  pov := story.pov
  tense := story.tense
  protagonistName := story.protagonistName
  packId := story.packId
  values := String.ofList (Json.object story.values.entries).write

namespace StoryRecord

/-- The values of a record, if their text can be read. -/
def readValues? (record : StoryRecord) : Option (Dictionary Json) :=
  ((Json.parse? record.values.toList).bind Json.fields?).map Dictionary.ofList

/-- The story that a record stands for. The table is broken if the values cannot
    be read. -/
def story (record : StoryRecord) : Except StoreFailure Story :=
  match record.readValues? with
  | none => .error .storage
  | some values => .ok ⟨record.id, record.title, record.genre, record.mode, record.pov,
      record.tense, record.protagonistName, record.packId, values⟩

end StoryRecord

namespace Transaction

/-- The story with an identifier, which has to exist. -/
def requireStory (storyId : Int) : Transaction Story :=
  demand (.notFound .story (toString storyId)) (·.story? storyId)

end Transaction

namespace Store

open Transaction

/-- The story with an identifier, which has to exist, as it is read from its
    record. -/
def readStory (storyId : Int) : Transaction Story := do
  let row ← requireStory storyId
  liftM row.record.story

end Store

end PromptPacks
