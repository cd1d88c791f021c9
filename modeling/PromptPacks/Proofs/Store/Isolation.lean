import PromptPacks.Proofs.Store.Frame

namespace PromptPacks

open PromptPacks.Store PromptPacks.Transaction

namespace Tables

/-- The tables with a change in the row of one story. -/
def mapStory (tables : Tables) (storyId : Int) (update : Story → Story) : Tables :=
  { tables with
    stories := tables.stories.map fun row => if row.id = storyId then update row else row }

/-- A story is one row, so its new row is put where the old one was, and all
    other stories stay. -/
theorem Valid.setStory_eq_mapStory {tables : Tables} (hvalid : tables.Valid) {storyId : Int}
    {story : Story} (hstory : tables.story? storyId = some story) (update : Story → Story)
    (hid : (update story).id = story.id) :
    tables.setStory (update story) = tables.mapStory storyId update := by
  obtain ⟨hmem, rfl⟩ := story?_eq_some hstory
  have hrows : (tables.stories.map fun row =>
        if row.id = (update story).id then update story else row) =
      tables.stories.map fun row => if row.id = story.id then update row else row := by
    refine List.map_congr_left fun row hrow => ?_
    rw [hid]
    by_cases hsame : row.id = story.id
    · rw [List.inj_on_of_nodup_map hvalid.storyIds hrow hmem hsame]
    · rw [if_neg hsame, if_neg hsame]
  rw [setStory, hrows, mapStory]

end Tables

namespace Transaction

variable {tables : Tables} {packId : Int} {pack : Pack} {row : PackVariable} {α : Type}

/-- What a pack says to a request for a variable of another one. The default
    pack does not look at the variable at all. -/
def foreignVariable (pack : Pack) (variableId : Int) : Refusal :=
  if pack.isDefault then .violation .readOnlyDefault
  else .notFound .customVariable (toString variableId)

/-- A request that begins with a pack and with a variable fails if the variable
    belongs to another pack. -/
theorem requireVariable_of_foreign (hvalid : tables.Valid) (hpack : pack ∈ tables.packs)
    (hrow : row ∈ tables.variables) (hforeign : row.packId ≠ pack.id)
    (rest : PackVariable → Transaction α) :
    (do
      let _ ← requireEditable pack.id
      let existing ← requireVariable pack.id row.id
      rest existing : Transaction α) tables = .error (.refused (foreignVariable pack row.id)) := by
  refine Outcome.eq_error ?_
  rw [outcome_bind, outcome_requireEditable, hvalid.pack?_of_mem hpack]
  refine ⟨by simp, fun found hfound => ?_⟩
  obtain rfl := Option.some.inj hfound
  unfold foreignVariable
  refine ⟨fun hdefault => by rw [if_pos hdefault], fun hdefault => ?_⟩
  rw [outcome_bind, if_neg (by simp [hdefault])]
  refine outcome_requireVariable rfl fun other hother howner => ?_
  obtain ⟨hmem, hid⟩ := Tables.variableRow?_eq_some hother
  obtain rfl := List.inj_on_of_nodup_map hvalid.variableIds hmem hrow hid
  exact (hforeign howner).elim

end Transaction

namespace Store

variable {tables after : Tables} {pack : Pack} {row : PackVariable}

/-- A variable is not updated through a pack that it does not belong to. The
    refusal does not depend on what was to be changed. -/
theorem updateVariable_of_foreign (hvalid : tables.Valid) (hpack : pack ∈ tables.packs)
    (hrow : row ∈ tables.variables) (hforeign : row.packId ≠ pack.id) (patch : VariablePatch) :
    updateVariable pack.id row.id patch tables =
      .error (.refused (foreignVariable pack row.id)) :=
  requireVariable_of_foreign hvalid hpack hrow hforeign _

/-- A variable is not deleted through a pack that it does not belong to. -/
theorem deleteVariable_of_foreign (hvalid : tables.Valid) (hpack : pack ∈ tables.packs)
    (hrow : row ∈ tables.variables) (hforeign : row.packId ≠ pack.id) :
    deleteVariable pack.id row.id tables = .error (.refused (foreignVariable pack row.id)) :=
  requireVariable_of_foreign hvalid hpack hrow hforeign _

/-- Assigning a pack changes one column of one story. -/
theorem assignPack_eq_mapStory (hvalid : tables.Valid) (hreads : tables.ReadsStories)
    {storyId packId : Int} {answer : Story}
    (hrun : assignPack storyId packId tables = .ok (answer, after)) :
    after = tables.mapStory storyId ({ · with packId }) := by
  obtain ⟨story, hstory, -, rfl, rfl, -⟩ :=
    (assignPack_spec hvalid hreads storyId packId).of_ok hrun
  exact hvalid.setStory_eq_mapStory hstory ({ · with packId }) rfl

/-- Setting values changes one column of one story. -/
theorem setStoryValues_eq_mapStory (hvalid : tables.Valid) (hreads : tables.ReadsStories)
    {storyId : Int} {values answer : Dictionary Json}
    (hrun : setStoryValues storyId values tables = .ok (answer, after)) :
    after = tables.mapStory storyId ({ · with values }) := by
  obtain ⟨story, hstory, -, -, rfl, -⟩ :=
    (setStoryValues_spec hvalid hreads storyId values).of_ok hrun
  exact hvalid.setStory_eq_mapStory hstory ({ · with values }) rfl

end Store

namespace Reachable

variable {registry : Registry} {tables : Tables}

/-- A request changes rows of one pack only, or the one column of one story that
    it is for. A variable cannot be changed through a pack that it does not
    belong to. -/
theorem changes_only_own_rows (hreachable : Reachable registry tables) :
    (∀ {α : Type} (request : Request α) (answer : α) (after : Tables),
      request.run registry tables = .ok (answer, after) →
        (∀ packId, request.changed? tables ≠ some packId → tables.AgreesOn packId after) ∧
          (request.changedStory? = none → after.stories = tables.stories)) ∧
    (∀ (storyId packId : Int) (answer : Story) (after : Tables),
      assignPack storyId packId tables = .ok (answer, after) →
        after = tables.mapStory storyId ({ · with packId })) ∧
    (∀ (storyId : Int) (values answer : Dictionary Json) (after : Tables),
      setStoryValues storyId values tables = .ok (answer, after) →
        after = tables.mapStory storyId ({ · with values })) ∧
    ∀ pack ∈ tables.packs, ∀ row ∈ tables.variables, row.packId ≠ pack.id →
      (∀ patch, updateVariable pack.id row.id patch tables =
          .error (.refused (foreignVariable pack row.id))) ∧
        deleteVariable pack.id row.id tables =
          .error (.refused (foreignVariable pack row.id)) := by
  have hvalid := hreachable.valid
  refine ⟨fun request answer after hrun => ?_, fun storyId packId answer after => ?_,
    fun storyId values answer after => ?_,
    fun pack hpack row hrow hforeign => ⟨fun patch => ?_, ?_⟩⟩
  · have heffect := (request.outcome_effect hvalid hreachable.sound).of_ok hrun
    exact ⟨fun packId => heffect.agreesOn_of_changed?_ne hvalid, heffect.stories_eq⟩
  · exact assignPack_eq_mapStory hvalid hreachable.sound.stories
  · exact setStoryValues_eq_mapStory hvalid hreachable.sound.stories
  · exact updateVariable_of_foreign hvalid hpack hrow hforeign patch
  · exact deleteVariable_of_foreign hvalid hpack hrow hforeign

/-- The deletion of a pack leaves the default one as it is, and no variable of
    it can be deleted through the default pack. -/
theorem agreesOn_sample : (∃ after, (Request.deletePack 2).run .empty sample = .ok ((), after) ∧
      sample.AgreesOn 1 after ∧ after.stories = sample.stories) ∧
    deleteVariable 1 1 sample = .error (.refused (.violation .readOnlyDefault)) := by
  obtain ⟨hrequests, -, -, hforeign⟩ := reachable_sample.changes_only_own_rows
  constructor
  · cases hrun : (Request.deletePack 2).run .empty sample with
    | error reason =>
      have hdeletes : ((Request.deletePack 2).run .empty sample).isOk = true := by decide +kernel
      rw [hrun] at hdeletes
      cases hdeletes
    | ok result =>
      obtain ⟨hagrees, hstories⟩ := hrequests _ _ _ hrun
      exact ⟨result.2, rfl, hagrees 1 (by decide), hstories rfl⟩
  · obtain ⟨default, hdefault, hid, hisDefault⟩ : ∃ default ∈ sample.packs, default.id = 1 ∧
        default.isDefault = true := by decide +kernel
    obtain ⟨row, hrow, hnumber, howner⟩ : ∃ row ∈ sample.variables, row.id = 1 ∧
        row.packId = 2 := by decide +kernel
    have hdelete := (hforeign default hdefault row hrow (by simp [hid, howner])).2
    rwa [hid, hnumber, foreignVariable, if_pos hisDefault] at hdelete

/-- The default pack does not report a variable of another pack as missing. It
    refuses all changes before it looks for the variable. -/
theorem exists_foreign_not_notFound : Reachable .empty sample ∧
    ∃ pack ∈ sample.packs, ∃ row ∈ sample.variables, row.packId ≠ pack.id ∧
      ∀ entity id, deleteVariable pack.id row.id sample ≠
        .error (.refused (.notFound entity id)) := by
  obtain ⟨default, hdefault, hid, hisDefault⟩ : ∃ default ∈ sample.packs, default.id = 1 ∧
      default.isDefault = true := by decide +kernel
  obtain ⟨row, hrow, howner⟩ : ∃ row ∈ sample.variables, row.packId = 2 := by decide +kernel
  have hforeign : row.packId ≠ default.id := by simp [hid, howner]
  refine ⟨reachable_sample, default, hdefault, row, hrow, hforeign, fun entity id => ?_⟩
  rw [deleteVariable_of_foreign reachable_sample.valid hdefault hrow hforeign, foreignVariable,
    if_pos hisDefault]
  simp

end Reachable

end PromptPacks
