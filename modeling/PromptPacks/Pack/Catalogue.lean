namespace PromptPacks

/-- What a shipped template is for. -/
inductive TemplateCategory where
  | narrative
  | memory
  | lore
  | suggestions
  | image
  | agent
deriving DecidableEq, Repr

def TemplateCategory.label : TemplateCategory → String
  | .narrative => "narrative"
  | .memory => "memory"
  | .lore => "lore"
  | .suggestions => "suggestions"
  | .image => "image"
  | .agent => "agent"

/-- A template that every default pack has. -/
structure ShippedTemplate where
  id : String
  name : String
  category : TemplateCategory
  description : String
  content : String
  /-- Whether another service takes the text as it is, so that it is never rendered. -/
  isExternal : Bool
  /-- The variables that are given for a single rendering. -/
  runtimeVariables : List String
deriving DecidableEq, Repr

namespace ShippedTemplate

/-- The role, the voice, the point of view and the tense of the narrator. -/
def storySystemPrompt : ShippedTemplate where
  id := "story-system-prompt"
  name := "Narrator system prompt"
  category := .narrative
  description := "Sets up the narrator's role, voice, point of view and tense."
  content :=
    "You are the narrator of an interactive story\x7b% if storyTitle %\x7d titled " ++
    "\"\x7b\x7b storyTitle \x7d\x7d\"\x7b% endif %\x7d.\n" ++
    "Genre: \x7b\x7b genre | capitalize \x7d\x7d.\n" ++
    "\x7b% if mode == 'adventure' %\x7dThe reader plays \x7b\x7b protagonistName " ++
    "\x7d\x7d. Describe what happens in response to their actions. Never act or speak " ++
    "for them.\n" ++
    "\x7b% else %\x7dYou are co-writing a story with an author. Continue the prose in " ++
    "the author's voice and follow their direction.\n" ++
    "\x7b% endif %\x7d\x7b% if pov == 'first' %\x7dWrite in the first person.\x7b% " ++
    "elsif pov == 'third' %\x7dWrite in the third person, following \x7b\x7b " ++
    "protagonistName \x7d\x7d.\x7b% else %\x7dWrite in the second person, addressing " ++
    "the protagonist as \"you\".\x7b% endif %\x7d\n" ++
    "Use the \x7b\x7b tense \x7d\x7d tense."
  isExternal := false
  runtimeVariables := []

def storyTurn : ShippedTemplate where
  id := "story-turn"
  name := "Story turn"
  category := .narrative
  description := "The per-turn request: recent story, summary and the reader's action."
  content :=
    "\x7b% if storySummary %\x7dStory so far:\n" ++
    "\x7b\x7b storySummary \x7d\x7d\n\n" ++
    "\x7b% endif %\x7d\x7b% if recentEntries %\x7dRecent passages:\n" ++
    "\x7b\x7b recentEntries | bullets \x7d\x7d\n\n" ++
    "\x7b% endif %\x7d\x7b% if mode == 'adventure' %\x7d\x7b\x7b protagonistName | " ++
    "capitalize \x7d\x7d acts: \x7b\x7b userAction \x7d\x7d\n" ++
    "Continue the story from here.\x7b% else %\x7dAuthor's direction: \x7b\x7b " ++
    "userAction \x7d\x7d\n" ++
    "Write the next passage.\x7b% endif %\x7d"
  isExternal := false
  runtimeVariables := ["userAction", "recentEntries", "storySummary"]

def memorySummary : ShippedTemplate where
  id := "memory-summary"
  name := "Chapter summary"
  category := .memory
  description := "Condenses a finished chapter into a short memory."
  content :=
    "Summarize the following chapter of \"\x7b\x7b storyTitle \x7d\x7d\" in a few " ++
    "sentences.\n" ++
    "Keep names, places and unresolved threads. Write in the past tense.\n\n" ++
    "\x7b\x7b chapterText \x7d\x7d"
  isExternal := false
  runtimeVariables := ["chapterText"]

def loreExtraction : ShippedTemplate where
  id := "lore-extraction"
  name := "Lore extraction"
  category := .lore
  description := "Finds new characters, places and items in a passage."
  content :=
    "List any new characters, locations or items introduced in the passage below.\n" ++
    "\x7b% if existingLore %\x7dIgnore entries already known:\n" ++
    "\x7b\x7b existingLore | bullets \x7d\x7d\n" ++
    "\x7b% endif %\x7d\n" ++
    "Passage:\n" ++
    "\x7b\x7b passage \x7d\x7d"
  isExternal := false
  runtimeVariables := ["passage", "existingLore"]

def suggestionPrompt : ShippedTemplate where
  id := "suggestion-prompt"
  name := "Action suggestions"
  category := .suggestions
  description := "Proposes what the reader might do next."
  content :=
    "Based on the latest passages of this \x7b\x7b genre \x7d\x7d story, suggest " ++
    "\x7b\x7b suggestionCount | default(3) \x7d\x7d short, distinct things \x7b\x7b " ++
    "protagonistName \x7d\x7d could do next.\n" ++
    "\x7b\x7b recentEntries | bullets \x7d\x7d"
  isExternal := false
  runtimeVariables := ["recentEntries", "suggestionCount"]

def imagePrompt : ShippedTemplate where
  id := "image-prompt"
  name := "Scene illustration"
  category := .image
  description := "Prompt handed to the image provider as-is."
  content :=
    "Illustration of the current scene, \x7bstyle\x7d, detailed, no text."
  isExternal := true
  runtimeVariables := []

/-- What agents are told about their tools. -/
def agentToolInstructions : ShippedTemplate where
  id := "agent-tool-instructions"
  name := "Agent tool instructions"
  category := .agent
  description := "Tool-use instructions read by the story agents."
  content :=
    "Use the available tools to look up lore entries before answering. Call one tool " ++
    "at a time."
  isExternal := true
  runtimeVariables := []

/-- All shipped templates in the order of their catalogue. -/
def all : List ShippedTemplate :=
  [storySystemPrompt, storyTurn, memorySummary, loreExtraction, suggestionPrompt, imagePrompt,
    agentToolInstructions]

def find? (id : String) : Option ShippedTemplate :=
  all.find? (·.id == id)

/-- Whether an identifier is that of a template that is never rendered. -/
def isExternalId (id : String) : Bool :=
  ((find? id).map isExternal).getD false

/-- The variables that are given for a rendering of the template with an
    identifier. -/
def runtimeVariablesOf (id : String) : List String :=
  ((find? id).map runtimeVariables).getD []

end ShippedTemplate

end PromptPacks
