import PromptPacks.Proofs.Store.Guards
import PromptPacks.Proofs.Store.Validity
import PromptPacks.Store.Stories

namespace PromptPacks

namespace Tables

def addStory (tables : Tables) (story : Story) : Tables :=
  { tables with
    stories := tables.stories ++ [{ story with id := tables.lastStory + 1 }]
    lastStory := tables.lastStory + 1 }

/-- The tables with other values in the row of a story. -/
def setStory (tables : Tables) (row : Story) : Tables :=
  { tables with
    stories := tables.stories.map fun other => if other.id = row.id then row else other }

variable {tables : Tables} {story : Story}

@[simp]
theorem packs_setStory : (tables.setStory story).packs = tables.packs := rfl

@[simp]
theorem templates_setStory : (tables.setStory story).templates = tables.templates := rfl

@[simp]
theorem variables_setStory : (tables.setStory story).variables = tables.variables := rfl

theorem hasPack_setStory {packId : Int} :
    (tables.setStory story).HasPack packId ↔ tables.HasPack packId :=
  Iff.rfl

/-- A story is added if its pack exists. It gets the number behind the counter. -/
theorem insertStory?_of_hasPack (hpack : tables.HasPack story.packId) :
    tables.insertStory? story =
      some ({ story with id := tables.lastStory + 1 }, tables.addStory story) := by
  obtain ⟨pack, hpack⟩ := Option.isSome_iff_exists.1 (pack?_isSome_iff.2 hpack)
  simp [insertStory?, hpack, addStory]

/-- A story is not added to a pack that does not exist, as its reference would
    lead nowhere. -/
theorem insertStory?_of_not_hasPack (hpack : ¬tables.HasPack story.packId) :
    tables.insertStory? story = none := by
  rw [← pack?_isSome_iff, Option.not_isSome_iff_eq_none] at hpack
  simp [insertStory?, hpack]

/-- The row of a story is replaced if its pack exists. -/
theorem replaceStory?_of_hasPack (hpack : tables.HasPack story.packId) :
    tables.replaceStory? story = some (tables.setStory story) := by
  obtain ⟨pack, hpack⟩ := Option.isSome_iff_exists.1 (pack?_isSome_iff.2 hpack)
  simp [replaceStory?, hpack, setStory]

end Tables

namespace Store

open Transaction

variable {tables : Tables}

/-- A story is added to a pack that exists, with no values of its own. For a
    missing pack the tables turn it down, since no rule has asked for the pack
    before. -/
theorem createStory_spec (hvalid : tables.Valid) (title : String)
    (genre mode pov tense protagonistName : Option String) (packId : Int) :
    (createStory title genre mode pov tense protagonistName packId).Outcome tables
      (fun reason => reason = .storage ∧ ¬tables.HasPack packId)
      fun row after => tables.HasPack packId ∧
        row = ⟨tables.lastStory + 1, title, genre, mode.getD defaultMode, pov, tense,
          protagonistName, packId, .empty⟩ ∧
        after = tables.addStory row ∧ after.Valid := by
  rw [createStory, outcome_add]
  by_cases hpack : tables.HasPack packId
  · have hinsert := @Tables.insertStory?_of_hasPack tables ⟨0, title, genre,
      mode.getD defaultMode, pov, tense, protagonistName, packId, .empty⟩ hpack
    rw [hinsert]
    refine ⟨by simp, fun row after hrow => ?_⟩
    simp only [Option.some.injEq, Prod.mk.injEq] at hrow
    obtain ⟨rfl, rfl⟩ := hrow
    exact ⟨hpack, rfl, rfl, hvalid.insertStory? hinsert⟩
  · rw [Tables.insertStory?_of_not_hasPack hpack]
    exact ⟨fun _ => ⟨rfl, hpack⟩, by simp⟩

/-- The same as an equation, for a pack that exists. -/
theorem createStory_eq_ok {title : String} {genre mode pov tense protagonistName : Option String}
    {packId : Int} (hpack : tables.HasPack packId) :
    createStory title genre mode pov tense protagonistName packId tables =
      .ok (⟨tables.lastStory + 1, title, genre, mode.getD defaultMode, pov, tense,
          protagonistName, packId, .empty⟩,
        tables.addStory ⟨0, title, genre, mode.getD defaultMode, pov, tense, protagonistName,
          packId, .empty⟩) := by
  refine Outcome.eq_ok ?_
  rw [createStory, outcome_add, Tables.insertStory?_of_hasPack (by exact hpack)]
  simp

/-- Replacing the row of a story cannot fail if its pack exists. -/
theorem outcome_replaceStory {row : Story} (hpack : tables.HasPack row.packId)
    {failure : StoreFailure → Prop} {success : Unit → Tables → Prop} :
    (change (·.replaceStory? row)).Outcome tables failure success ↔
      success () (tables.setStory row) := by
  rw [outcome_change, Tables.replaceStory?_of_hasPack hpack]
  simp

/-- A story may use any pack that exists. Its values stay as they are, whether
    the new pack declares their names or not. -/
theorem assignPack_spec (hvalid : tables.Valid) (hreads : tables.ReadsStories)
    (storyId packId : Int) :
    (assignPack storyId packId).Outcome tables (· ≠ .storage) fun row after =>
      ∃ story, tables.story? storyId = some story ∧ tables.HasPack packId ∧
        row = { story with packId } ∧ after = tables.setStory row ∧ after.Valid := by
  simp only [assignPack, outcome_bind, outcome_requirePack, outcome_readStory hreads]
  refine ⟨by simp, fun pack hpack => ⟨by simp, fun story hstory => ?_⟩⟩
  have hhas := Tables.hasPack_of_pack?_eq_some hpack
  rw [outcome_replaceStory (by exact hhas)]
  exact ⟨story, hstory, hhas, rfl, rfl,
    hvalid.replaceStory? (Tables.replaceStory?_of_hasPack (by exact hhas))⟩

section

variable {storyId : Int} {story : Story} (hstory : tables.story? storyId = some story)
  (hread : story.record.readValues? = some story.values)

include hstory hread

/-- A story that can be read gets any pack that exists. -/
theorem assignPack_eq_ok {packId : Int} (hpack : tables.HasPack packId) :
    assignPack storyId packId tables =
      .ok ({ story with packId }, tables.setStory { story with packId }) := by
  obtain ⟨pack, hfound⟩ := Option.isSome_iff_exists.1 (Tables.pack?_isSome_iff.2 hpack)
  have hgiven : requirePack packId tables = .ok (pack, tables) := by
    rw [requirePack, demand_apply, hfound]
    rfl
  rw [assignPack, bind_eq_of_ok hgiven, bind_eq_of_ok (readStory_eq_ok hstory hread)]
  refine Outcome.eq_ok ?_
  rw [outcome_bind, outcome_replaceStory (by exact hpack)]
  exact ⟨rfl, rfl⟩

/-- Values that are accepted together are stored, and what the story has set
    before is gone. -/
theorem setStoryValues_eq_ok {values : Dictionary Json} (hpack : tables.HasPack story.packId)
    (haccepted : checkOverrides ((tables.variablesOf story.packId).map (·.definition)) values =
      .ok ()) :
    setStoryValues storyId values tables = .ok (values, tables.setStory { story with values }) := by
  rw [setStoryValues, bind_eq_of_ok (readStory_eq_ok hstory hread),
    bind_eq_of_ok (readDefinitions_eq_ok tables story.packId), haccepted]
  refine Outcome.eq_ok ?_
  rw [outcome_bind, outcome_accept, outcome_bind, outcome_replaceStory (by exact hpack)]
  exact ⟨nofun, fun _ => ⟨rfl, rfl⟩⟩

end

/-- A story sets values for variables of its pack, which exists. All old values
    are replaced. -/
theorem setStoryValues_spec (hvalid : tables.Valid) (hreads : tables.ReadsStories) (storyId : Int)
    (values : Dictionary Json) :
    (setStoryValues storyId values).Outcome tables (· ≠ .storage) fun answer after =>
      ∃ story, tables.story? storyId = some story ∧
        checkOverrides ((tables.variablesOf story.packId).map (·.definition)) values = .ok () ∧
        answer = values ∧ after = tables.setStory { story with values } ∧ after.Valid := by
  simp only [setStoryValues, outcome_bind, outcome_readStory hreads, readDefinitions_eq_ask,
    outcome_ask, outcome_accept]
  refine ⟨by simp, fun story hstory => ⟨by simp, fun haccepted => ?_⟩⟩
  have hhas := hvalid.storyPacks story (Tables.story?_eq_some hstory).1
  rw [outcome_replaceStory (by exact hhas)]
  exact ⟨story, hstory, haccepted, rfl, rfl,
    hvalid.replaceStory? (Tables.replaceStory?_of_hasPack (by exact hhas))⟩

end Store

end PromptPacks
