import PromptPacks.Proofs.Store.Contexts
import PromptPacks.Proofs.Store.Isolation

namespace PromptPacks

open PromptPacks.Store PromptPacks.Transaction

namespace Tables

/-- A story sets a value under a name that no variable of its pack has. -/
structure IsStale (tables : Tables) (story : Story) (name : String) : Prop where
  isSet : (story.values.get? name).isSome = true
  isUndeclared : tables.variableNamed? story.packId name = none

/-- A story that uses the pack of a variable sets a value under its name. -/
def IsOverridden (tables : Tables) (row : PackVariable) : Prop :=
  ∃ story ∈ tables.stories, story.packId = row.packId ∧
    (story.values.get? row.name).isSome = true

variable {tables : Tables} {storyId : Int} {update : Story → Story} {row : Story}

/-- A story after a change of one of them is an old one or the changed one. -/
theorem mem_stories_mapStory (hrow : row ∈ (tables.mapStory storyId update).stories) :
    row ∈ tables.stories ∨ ∃ story ∈ tables.stories, story.id = storyId ∧ row = update story := by
  obtain ⟨story, hstory, rfl⟩ := List.mem_map.1 hrow
  split
  next hid => exact .inr ⟨story, hstory, hid, rfl⟩
  next => exact .inl hstory

end Tables

namespace Request

variable {α : Type} {registry : Registry} {tables after : Tables}

/-- What assigning a pack leaves, where both rows exist. -/
theorem after_assignPack (hreads : tables.ReadsStories) {storyId packId : Int} {story : Story}
    (hstory : tables.story? storyId = some story) (hpack : tables.HasPack packId) :
    (assignPack storyId packId).after registry tables = tables.setStory { story with packId } :=
  after_of_ok (assignPack_eq_ok hstory (hreads story (Tables.story?_eq_some hstory).1) hpack)

/-- What setting accepted values leaves, where the story exists. -/
theorem after_setStoryValues (hreads : tables.ReadsStories) {storyId : Int} {story : Story}
    {values : Dictionary Json} (hstory : tables.story? storyId = some story)
    (hpack : tables.HasPack story.packId)
    (haccepted : checkOverrides ((tables.variablesOf story.packId).map (·.definition)) values =
      .ok ()) :
    (setStoryValues storyId values).after registry tables = tables.setStory { story with values } :=
  after_of_ok (setStoryValues_eq_ok hstory (hreads story (Tables.story?_eq_some hstory).1) hpack
    haccepted)

/-- A request is to make a story use a pack. -/
def Assigns (storyId packId : Int) : Request α → Prop
  | assignPack reader target => reader = storyId ∧ target = packId
  | _ => False

/-- All that a request can make of the row of a story: it may stay, get another
    pack or get other values that fit its pack. -/
theorem mem_stories_after (hvalid : tables.Valid) (hsound : tables.Sound registry)
    (request : Request α) {row : Story} (hrow : row ∈ (request.after registry tables).stories) :
    row ∈ tables.stories ∨
      (request.after registry tables).variables = tables.variables ∧
        ∃ story ∈ tables.stories,
          (∃ packId, request.Assigns story.id packId ∧ row = { story with packId }) ∨
          ∃ values, checkOverrides ((tables.variablesOf story.packId).map (·.definition)) values =
            .ok () ∧ row = { story with values } := by
  cases hrun : request.run registry tables with
  | error reason =>
    rw [after, hrun] at hrow
    exact .inl hrow
  | ok result =>
    rw [after_of_ok hrun] at hrow ⊢
    cases request with
    | assignPack storyId packId =>
      rw [assignPack_eq_mapStory hvalid hsound.stories hrun] at hrow ⊢
      obtain hrow | ⟨story, hstory, rfl, rfl⟩ := Tables.mem_stories_mapStory hrow
      · exact .inl hrow
      · exact .inr ⟨rfl, story, hstory, .inl ⟨packId, ⟨rfl, rfl⟩, rfl⟩⟩
    | setStoryValues storyId values =>
      obtain ⟨story, hstory, haccepted, -, -, -⟩ :=
        (setStoryValues_spec hvalid hsound.stories storyId values).of_ok hrun
      obtain ⟨hmem, rfl⟩ := Tables.story?_eq_some hstory
      rw [setStoryValues_eq_mapStory hvalid hsound.stories hrun] at hrow ⊢
      obtain hrow | ⟨other, hother, hid, rfl⟩ := Tables.mem_stories_mapStory hrow
      · exact .inl hrow
      · obtain rfl := List.inj_on_of_nodup_map hvalid.storyIds hother hmem hid
        exact .inr ⟨rfl, other, hother, .inr ⟨values, haccepted, rfl⟩⟩
    | _ =>
      have heffect := (outcome_effect hvalid hsound _).of_ok hrun
      rw [heffect.stories_eq rfl] at hrow
      exact .inl hrow

/-- A request leaves the name of a variable as it is. -/
def LeavesName (row : PackVariable) : Request α → Prop
  | updateVariable _ variableId patch =>
    row.id = variableId → (patch.apply row.definition).name = row.name
  | deleteVariable _ variableId => row.id ≠ variableId
  | _ => True

/-- In a pack that stays, a variable stays declared under a name that is left as
    it is. Its row may change in all other respects. -/
theorem Effect.mem_keys {request : Request α} (heffect : request.Effect registry tables after)
    (hvalid : tables.Valid) {row : PackVariable} (hrow : row ∈ tables.variables)
    (hpack : after.HasPack row.packId) (hleaves : request.LeavesName row) :
    row.key ∈ after.variables.map PackVariable.key := by
  have hkept : row ∈ after.variables → row.key ∈ after.variables.map PackVariable.key :=
    List.mem_map_of_mem
  cases heffect with
  | unchanged | updatePack | setTemplate | resetTemplate | assignPack | setStoryValues =>
    exact hkept hrow
  | seed =>
    refine hkept ?_
    rwa [Tables.variables_refreshAll]
  | firstSeed =>
    refine hkept ?_
    rwa [Tables.variables_refreshAll]
  | createPack =>
    refine hkept (List.mem_append_left _ ?_)
    rwa [Tables.variables_putAll]
  | resetAll =>
    refine hkept ?_
    rwa [Tables.variables_putAll]
  | importPack =>
    refine hkept (List.mem_append_left _ ?_)
    rwa [Tables.variables_putAll, Tables.variables_putAll]
  | createVariable => exact hkept (List.mem_append_left _ hrow)
  | deletePack =>
    refine hkept (List.mem_filter.2 ⟨hrow, ?_⟩)
    obtain ⟨pack, hmem, hid⟩ := hpack
    rw [← hid]
    exact (List.mem_filter.1 hmem).2
  | @updateVariable packId variableId patch pack existing _ _ hexisting howner =>
    obtain ⟨hmem, hid⟩ := Tables.variableRow?_eq_some hexisting
    by_cases hsame : row.id = existing.id
    · obtain rfl := List.inj_on_of_nodup_map hvalid.variableIds hrow hmem hsame
      have hkey : row.key = (packId, (patch.apply row.definition).name) := by
        rw [PackVariable.key, howner, hleaves hid]
      rw [hkey]
      exact List.mem_map.2
        ⟨_, Tables.mem_variables_setVariable.2 (.inl ⟨rfl, row, hrow, rfl⟩), rfl⟩
    · exact hkept (Tables.mem_variables_setVariable.2 (.inr ⟨hrow, hsame⟩))
  | deleteVariable =>
    exact hkept (List.mem_filter.2 ⟨hrow, by simpa [LeavesName] using hleaves⟩)

/-- A request takes no name away for which a story sets a value: neither from
    the pack that the story uses, nor by a change of the pack. -/
def KeepsOverrides ⦃α : Type⦄ (tables : Tables) (request : Request α) : Prop :=
  (∀ row ∈ tables.variables, tables.IsOverridden row → request.LeavesName row) ∧
    ∀ story ∈ tables.stories, ∀ packId, request.Assigns story.id packId →
      ∀ name, (story.values.get? name).isSome = true →
        (tables.variableNamed? packId name).isSome = true

end Request

namespace Tables

variable {registry : Registry} {tables : Tables}

/-- Looking for a variable looks at the variables only. -/
theorem variableNamed?_congr {other : Tables} (hvariables : other.variables = tables.variables)
    (packId : Int) (name : String) :
    other.variableNamed? packId name = tables.variableNamed? packId name := by
  rw [variableNamed?, hvariables, variableNamed?]

/-- A variable is found exactly if its key is among the keys. -/
theorem isSome_variableNamed?_iff {packId : Int} {name : String} :
    (tables.variableNamed? packId name).isSome = true ↔
      (packId, name) ∈ tables.variables.map PackVariable.key := by
  simp [variableNamed?, PackVariable.key, Prod.ext_iff]

/-- The names for which stories set values stay declared as long as requests
    keep them. The pack of a story stays, and so do those of its names that the
    story uses; only a change of the pack has to be looked at by itself. -/
theorem not_isStale_after {α : Type} {request : Request α} (hvalid : tables.Valid)
    (hsound : tables.Sound registry) (hnumbers : request.GivesNumbers)
    (hkeeps : request.KeepsOverrides tables)
    (hfresh : ∀ story ∈ tables.stories, ∀ name, ¬tables.IsStale story name) :
    ∀ row ∈ (request.after registry tables).stories, ∀ name,
      ¬(request.after registry tables).IsStale row name := by
  have hdeclared : ∀ story ∈ tables.stories, ∀ name, (story.values.get? name).isSome = true →
      (tables.variableNamed? story.packId name).isSome = true := by
    intro story hstory name hset
    rw [Option.isSome_iff_ne_none]
    exact fun hnone => hfresh story hstory name ⟨hset, hnone⟩
  rintro row hrow name ⟨hset, hnone⟩
  obtain hold | ⟨hvariables, story, hstory, hcase⟩ := request.mem_stories_after hvalid hsound hrow
  · have hvalidAfter := (Request.sound_after hvalid hsound hnumbers).1
    have heffect := request.effect_after hvalid hsound
    obtain ⟨variableRow, hvariable, hkey⟩ :=
      List.mem_map.1 (isSome_variableNamed?_iff.1 (hdeclared row hold name hset))
    obtain ⟨hpack, rfl⟩ : variableRow.packId = row.packId ∧ variableRow.name = name := by
      simpa [PackVariable.key] using hkey
    have hleaves := hkeeps.1 variableRow hvariable ⟨row, hold, hpack.symm, hset⟩
    have hmem := heffect.mem_keys hvalid hvariable
      (hpack ▸ hvalidAfter.storyPacks row hrow) hleaves
    rw [hkey] at hmem
    have hsome := isSome_variableNamed?_iff.2 hmem
    rw [hnone] at hsome
    cases hsome
  · rw [variableNamed?_congr hvariables] at hnone
    obtain ⟨packId, hassigns, rfl⟩ | ⟨values, haccepted, rfl⟩ := hcase
    · have hsome := hkeeps.2 story hstory packId hassigns name hset
      rw [hnone] at hsome
      cases hsome
    · obtain ⟨value, hvalue⟩ := Option.isSome_iff_exists.1 hset
      have hsome := (checkOverrides_eq_ok haccepted hvalue).1
      rw [hvalid.find?_declared, hnone] at hsome
      cases hsome

end Tables

/-- In a store whose requests keep the names for which stories set values, all
    these names are declared. -/
theorem LeadsTo.not_isStale {registry : Registry} {tables : Tables}
    (hleads : LeadsTo registry Request.KeepsOverrides .empty tables) :
    ∀ story ∈ tables.stories, ∀ name, ¬tables.IsStale story name := by
  induction hleads with
  | start => simp [Tables.empty]
  | request hnumbers hkeeps hleads ih =>
    have hreachable := hleads.reachable .empty
    exact Tables.not_isStale_after hreachable.valid hreachable.sound hnumbers hkeeps ih
  | story hrun hleads ih =>
    have hreachable := hleads.reachable .empty
    obtain ⟨-, rfl, rfl, -⟩ := (createStory_spec hreachable.valid _ _ _ _ _ _ _).of_ok hrun
    rintro row hrow name ⟨hset, hnone⟩
    obtain hold | hnew := List.mem_append.1 hrow
    · exact ih row hold name ⟨hset, hnone⟩
    · obtain rfl := List.mem_singleton.1 hnew
      cases hset

/-- The values that stories set have text forms, also after a story has got
    another pack, since values are never changed but as a whole. -/
theorem Reachable.isSome_scalarText? {registry : Registry} {tables : Tables}
    (hreachable : Reachable registry tables) : ∀ story ∈ tables.stories, ∀ name value,
      story.values.get? name = some value → (scalarText? value).isSome = true := by
  induction hreachable with
  | empty => simp [Tables.empty]
  | @request tables α request hnumbers hreachable ih =>
    intro row hrow name value hvalue
    obtain hold | ⟨-, story, hstory, ⟨packId, -, rfl⟩ | ⟨values, haccepted, rfl⟩⟩ :=
      request.mem_stories_after hreachable.valid hreachable.sound hrow
    · exact ih row hold name value hvalue
    · exact ih story hstory name value hvalue
    · exact (checkOverrides_eq_ok haccepted hvalue).2
  | story hrun hreachable ih =>
    obtain ⟨-, rfl, rfl, -⟩ := (createStory_spec hreachable.valid _ _ _ _ _ _ _).of_ok hrun
    intro row hrow name value hvalue
    obtain hold | hnew := List.mem_append.1 hrow
    · exact ih row hold name value hvalue
    · obtain rfl := List.mem_singleton.1 hnew
      cases hvalue

end PromptPacks
