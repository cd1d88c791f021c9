import PromptPacks.Variable.Registry

namespace PromptPacks

/-- The system variables in the order of their catalogue. Their values come from
    the story record. -/
def systemVariables : List VariableDefinition :=
  [{ name := "storyTitle", displayName := "Story title", type := .text, category := .system,
      required := false, defaultValue := none, options := none,
      description := some "Title of the current story" },
    { name := "genre", displayName := "Genre", type := .text, category := .system,
      required := false, defaultValue := some "fantasy", options := none,
      description := some "Genre chosen when the story was created" },
    { name := "mode", displayName := "Story mode", type := .enum, category := .system,
      required := false, defaultValue := some "adventure",
      options := some [⟨"Adventure", "adventure"⟩, ⟨"Creative writing", "creative-writing"⟩],
      description := some ("Adventure (the reader acts) or creative writing " ++
        "(the reader directs)") },
    { name := "pov", displayName := "Point of view", type := .enum, category := .system,
      required := false, defaultValue := some "second",
      options := some [⟨"First person", "first"⟩, ⟨"Second person", "second"⟩,
        ⟨"Third person", "third"⟩],
      description := none },
    { name := "tense", displayName := "Tense", type := .enum, category := .system,
      required := false, defaultValue := some "present",
      options := some [⟨"Past", "past"⟩, ⟨"Present", "present"⟩],
      description := none },
    { name := "protagonistName", displayName := "Protagonist name", type := .text,
      category := .system, required := false, defaultValue := some "the protagonist",
      options := none, description := some "Name of the main character" }]

def Registry.system : Registry :=
  systemVariables.foldl Registry.put .empty

end PromptPacks
