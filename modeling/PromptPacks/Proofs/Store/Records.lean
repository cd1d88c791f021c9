import PromptPacks.Proofs.Pack.Document
import PromptPacks.Proofs.Store.Outcome
import PromptPacks.Proofs.Store.Validity
import PromptPacks.Store.Exchange
import PromptPacks.Store.StoryRecord
import PromptPacks.Store.Variables

namespace PromptPacks

open PromptPacks.Json PromptPacks.Store PromptPacks.Transaction

theorem VariableType.parse_label (type : VariableType) : parse type.label = .ok type := by
  rw [parse, ofLabel?_label]

/-- The text of some options is read back, whatever labels and values they have:
    their document has no numbers, and its depth is that of a list of flat
    objects. -/
theorem parse?_write_optionsToJson (options : List EnumOption) :
    Json.parse? (optionsToJson options).write = some (optionsToJson options) := by
  have hdepth : (optionsToJson options).depth ≤ 2 := depth_ofOption_optionsToJson (some options)
  apply parse?_write
  · exact isExact_ofOption_optionsToJson (some options)
  · rw [maxDepth]
    omega

namespace PackVariable

/-- The options of a variable are read back from the text that they are stored
    as, also an empty list of them. -/
theorem readOptions?_record (row : PackVariable) :
    row.record.readOptions? = some row.options := by
  cases hoptions : row.options with
  | none => simp [VariableRecord.readOptions?, record, hoptions]
  | some options =>
    have hitems : items? EnumOption.ofJson? (optionsToJson options) = some options :=
      EnumOption.understands_ofJson?.items? _ _
        (tellsList_map fun option _ => option.isObject_toJson)
    simp [VariableRecord.readOptions?, record, hoptions, parse?_write_optionsToJson, hitems]

/-- A record is read back as the definition that it was written for. No rule for
    definitions is needed: the spelling of a type tells it from all others, and
    any options survive their text. -/
theorem definition_record (row : PackVariable) : row.record.definition = .ok row.definition := by
  have htype : VariableType.parse row.record.type = .ok row.type := row.type.parse_label
  rw [VariableRecord.definition, readOptions?_record]
  simp only [htype]
  rfl

end PackVariable

/-- Values that are scalars and can be read back are those that the record of
    their story has. Scalars keep the document flat, so that its depth is
    allowed for any number of values. -/
theorem Story.readValues?_record {story : Story}
    (hexact : ∀ entry ∈ story.values.entries, entry.2.IsExact ∧ entry.2.depth = 0) :
    story.record.readValues? = some story.values := by
  have hdepth : (Json.object story.values.entries).depth ≤ maxDepth := by
    have hflat := depthOfFields_le fun entry hentry => Nat.le_of_eq (hexact entry hentry).2
    rw [Json.depth, maxDepth]
    omega
  have hread : Json.parse? (Json.object story.values.entries).write =
      some (.object story.values.entries) :=
    parse?_write (haveExact_iff.2 fun entry hentry => (hexact entry hentry).1) hdepth
  rw [StoryRecord.readValues?, record, String.toList_ofList, hread, Option.bind_some, fields?,
    Option.map_some, Dictionary.ofList_entries]

/-- A record is read back as the story that it was written for if the values
    are. All else stands in it as it is. -/
theorem Story.story_record {story : Story}
    (hread : story.record.readValues? = some story.values) : story.record.story = .ok story := by
  rw [StoryRecord.story, hread]
  rfl

namespace Transaction

/-- Reading a variable never finds its table broken, and gives the row itself.
    What is asked of the rows can therefore be asked of the tables wherever
    variables are read. -/
theorem readVariable_eq_pure (row : PackVariable) : readVariable row = pure row := by
  rw [readVariable, row.readOptions?_record]

/-- The rows of a pack can always be read, so that reading them is a question
    only. -/
theorem readVariables_eq_ask (packId : Int) :
    readVariables packId = ask (·.variablesOf packId) := by
  have hread : readVariable = fun row => pure (id row) := funext readVariable_eq_pure
  simp only [readVariables, hread, List.mapM_pure, List.map_id, bind_pure]

/-- The definition of a row is read back from its record without fail. -/
theorem readDefinition_eq_pure (row : PackVariable) : readDefinition row = pure row.definition := by
  rw [readDefinition, row.definition_record]
  rfl

variable {tables : Tables} {failure : StoreFailure → Prop}

/-- A variable of another pack is refused like one that does not exist. That it
    is read before the packs are compared makes no difference, as every variable
    can be read. -/
theorem outcome_requireVariable {packId variableId : Int} {success : PackVariable → Tables → Prop}
    (hfailure : failure (.refused (.notFound .customVariable (toString variableId))))
    (hsuccess : ∀ row, tables.variableRow? variableId = some row → row.packId = packId →
      success row tables) :
    (requireVariable packId variableId).Outcome tables failure success := by
  simp only [requireVariable, readVariable_eq_pure, outcome_bind, outcome_demand, outcome_pure,
    outcome_ite, outcome_refuse]
  exact ⟨fun _ => hfailure, fun row hrow => ⟨hsuccess row hrow, fun _ => hfailure⟩⟩

/-- A variable of the pack is found, and its record can be read. -/
theorem requireVariable_eq_ok {packId variableId : Int} {row : PackVariable}
    (hrow : tables.variableRow? variableId = some row) (howner : row.packId = packId) :
    requireVariable packId variableId tables = .ok (row, tables) := by
  refine Outcome.eq_ok ?_
  simp only [requireVariable, readVariable_eq_pure, outcome_bind, outcome_demand, outcome_pure,
    outcome_ite, hrow]
  simp [← howner]

/-- The name that a refusal of a taken name tells is the one that was asked for,
    although it is taken from the row that has it. -/
theorem outcome_requireFreeVariable {packId : Int} {name : String}
    {success : Unit → Tables → Prop} :
    (requireFreeVariable packId name).Outcome tables failure success ↔
      (tables.variableNamed? packId name ≠ none → failure (.refused (.nameTaken .variable name))) ∧
        (tables.variableNamed? packId name = none → success () tables) := by
  rw [requireFreeVariable, outcome_bind, outcome_ask]
  cases hrow : tables.variableNamed? packId name with
  | none => simp
  | some row =>
    obtain ⟨-, hname⟩ : row.packId = packId ∧ row.name = name := by
      simpa [Tables.variableNamed?] using List.find?_some hrow
    simp [readVariable_eq_pure, hname]

end Transaction

namespace Store

/-- The definitions of a pack can always be read. -/
theorem readDefinitions_eq_ask (packId : Int) :
    readDefinitions packId = ask fun tables => (tables.variablesOf packId).map (·.definition) := by
  have hread : readDefinition = fun row => pure row.definition := funext readDefinition_eq_pure
  simp only [readDefinitions, readVariables_eq_ask, hread, List.mapM_pure]
  rfl

/-- The same as an equation for given tables. -/
theorem readDefinitions_eq_ok (tables : Tables) (packId : Int) :
    readDefinitions packId tables =
      .ok ((tables.variablesOf packId).map (·.definition), tables) := by
  rw [readDefinitions_eq_ask]
  rfl

/-- Whether the variables are read or not when the text of a template may be
    anything, the template is accepted or refused for the names that the pack
    has. -/
theorem acceptFor_eq (registry : Registry) (packId : Int) (templateId content : String) :
    acceptFor registry packId templateId content = (do
      let rows ← ask (·.variablesOf packId)
      acceptTemplate registry (rows.map (·.name)) templateId content) := by
  rw [acceptFor, readVariables_eq_ask]
  split_ifs with hexternal
  · funext tables
    rw [bind_eq_of_ok (show ask (·.variablesOf packId) tables = .ok (_, tables) from rfl),
      acceptTemplate, if_pos hexternal]
  · rfl

/-- A pack is exported with the definitions that its rows stand for. All reading
    of records is done away with here. -/
theorem exportPack_eq (packId : Int) :
    exportPack packId = (do
      let pack ← requirePack packId
      let templates ← ask (·.templatesOf packId)
      let rows ← ask (·.variablesOf packId)
      return {
        version := formatVersion
        name := pack.name
        description := pack.description
        author := pack.author
        templates := templates.map fun row => ⟨row.templateId, row.content, some row.hash⟩
        «variables» := rows.map fun row => ⟨row.definition, row.sortOrder⟩ }) := by
  simp only [exportPack, readVariables_eq_ask, readDefinition_eq_pure, pure_bind, List.mapM_pure]

end Store

namespace Tables

/-- The values of every story can be read from its record. -/
def ReadsStories (tables : Tables) : Prop :=
  ∀ story ∈ tables.stories, story.record.readValues? = some story.values

end Tables

namespace Store

variable {tables : Tables} {storyId : Int}

/-- A story is found if its values can be read from their text. -/
theorem readStory_eq_ok {story : Story} (hstory : tables.story? storyId = some story)
    (hread : story.record.readValues? = some story.values) :
    readStory storyId tables = .ok (story, tables) := by
  have hfound : requireStory storyId tables = .ok (story, tables) := by
    rw [requireStory, demand_apply, hstory]
    rfl
  rw [readStory, bind_eq_of_ok hfound, Story.story_record hread]
  rfl

/-- A missing story is refused before anything is read. -/
theorem readStory_missing (hmissing : tables.story? storyId = none) :
    readStory storyId tables = .error (.refused (.notFound .story (toString storyId))) := by
  refine bind_eq_of_error ?_
  rw [requireStory, demand_apply, hmissing]
  rfl

/-- Reading a story changes nothing, whether its record can be read or not. -/
theorem readStory_unchanged :
    (readStory storyId).Outcome tables (fun _ => True) fun _ after => after = tables := by
  rw [readStory, outcome_bind, requireStory, outcome_demand]
  refine ⟨fun _ => trivial, fun story _ => ?_⟩
  cases story.record.story with
  | ok found => exact rfl
  | error reason => exact trivial

/-- Where every story can be read, a story that exists is found as it is. The
    condition is kept by all requests, as values are stored only after they have
    been accepted. -/
theorem outcome_readStory {failure : StoreFailure → Prop} {success : Story → Tables → Prop}
    (hreads : tables.ReadsStories) :
    (readStory storyId).Outcome tables failure success ↔
      (tables.story? storyId = none → failure (.refused (.notFound .story (toString storyId)))) ∧
        ∀ story, tables.story? storyId = some story → success story tables := by
  rw [readStory, outcome_bind, requireStory, outcome_demand]
  refine and_congr_right fun _ => forall₂_congr fun story hstory => ?_
  rw [Story.story_record (hreads story (Tables.story?_eq_some hstory).1)]
  exact Iff.rfl

end Store

end PromptPacks
