import PromptPacks.Proofs.Context.Layers
import PromptPacks.Proofs.Store.Seed
import PromptPacks.Proofs.Store.Stories
import PromptPacks.Proofs.Store.Templates
import PromptPacks.Proofs.Store.Variables

namespace PromptPacks

open PromptPacks.Digest PromptPacks.Number PromptPacks.Transaction

/-- A place in the display order that can be stored. -/
def IsPlace (place : Int) : Prop :=
  minInt64 ≤ place ∧ place ≤ maxInt64

/-- A template goes with its hash, and it has been accepted or shipped under its
    identifier. The pack that it is in does not matter, so this stays true of
    copies. -/
structure PackTemplate.Sound (registry : Registry) (row : PackTemplate) : Prop where
  hash : row.hash = contentHash row.content
  source : (∃ declared, AcceptsTemplate registry declared row.templateId row.content) ∨
    ∃ shipped ∈ ShippedTemplate.all, row.templateId = shipped.id ∧ row.content = shipped.content

/-- A sound template is sound in every pack, since soundness does not look at
    the pack. -/
theorem PackTemplate.Sound.moved {registry : Registry} {row : PackTemplate}
    (hrow : row.Sound registry) (packId : Int) : (row.moved packId).Sound registry :=
  ⟨hrow.hash, hrow.source⟩

/-- Every shipped template is sound. They are few enough to be checked by
    evaluation. -/
theorem ShippedTemplate.sound_row {shipped : ShippedTemplate}
    (hshipped : shipped ∈ ShippedTemplate.all) (registry : Registry) (packId : Int) :
    (shipped.row packId).Sound registry :=
  ⟨rfl, .inr ⟨shipped, hshipped, rfl, rfl⟩⟩

/-- A template that has been accepted is sound, with the hash that is computed
    for it. -/
theorem Transaction.AcceptsTemplate.sound {registry : Registry} {declared : List String}
    {templateId content : String} (haccepts : AcceptsTemplate registry declared templateId content)
    (packId : Int) :
    PackTemplate.Sound registry ⟨packId, templateId, content, contentHash content⟩ :=
  ⟨rfl, .inl ⟨declared, haccepts⟩⟩

namespace Tables

/-- What requests put into the tables: no pack comes before the default one,
    templates are sound, variables stand at places that can be stored, and
    stories can be read. -/
structure Sound (registry : Registry) (tables : Tables) : Prop where
  hasDefault : ∀ pack ∈ tables.packs, ∃ default ∈ tables.packs, default.isDefault = true
  templates : ∀ row ∈ tables.templates, row.Sound registry
  places : ∀ row ∈ tables.variables, IsPlace row.sortOrder
  stories : tables.ReadsStories

variable {registry : Registry} {tables : Tables} {packId : Int}

theorem Sound.empty : Tables.empty.Sound registry := by
  constructor <;> simp [Tables.empty, ReadsStories]

/-- Where there is no default pack there is no pack at all. -/
theorem Sound.packs_eq_nil (hsound : tables.Sound registry)
    (hdefault : tables.defaultPack? = none) : tables.packs = [] := by
  rw [List.eq_nil_iff_forall_not_mem]
  intro pack hpack
  obtain ⟨default, hmem, hisDefault⟩ := hsound.hasDefault pack hpack
  rw [defaultPack?_eq_none.1 hdefault default hmem] at hisDefault
  cases hisDefault

/-- The place behind all variables can be stored, if there is one. -/
theorem Sound.nextPlace (hsound : tables.Sound registry)
    (hplace : tables.nextPlace packId ≤ maxInt64) : IsPlace (tables.nextPlace packId) := by
  refine ⟨?_, hplace⟩
  unfold Tables.nextPlace
  cases hlast : tables.lastPlace? packId with
  | none => decide
  | some place =>
    have hmem := List.max?_mem hlast
    obtain ⟨row, hrow, rfl⟩ := List.mem_map.1 hmem
    have hplace := hsound.places row (List.mem_filter.1 hrow).1
    exact Int.le_add_one hplace.1

namespace Sound

variable (hsound : tables.Sound registry)
include hsound

/-- The templates of a pack are sound. -/
theorem templatesOf {row : PackTemplate} (hrow : row ∈ tables.templatesOf packId) :
    row.Sound registry :=
  hsound.templates row (mem_templatesOf.1 hrow).1

/-- A pack may be added if it is the default one or if there is one already. -/
theorem addPack {name : String} {description author : Option String} {isDefault : Bool}
    (hdefault : isDefault = true ∨ ∃ default, tables.defaultPack? = some default) :
    (tables.addPack name description author isDefault).Sound registry := by
  refine { hsound with hasDefault := fun pack hpack => ?_ }
  obtain hdefault | ⟨default, hdefault⟩ := hdefault
  · exact ⟨_, List.mem_append_right _ List.mem_cons_self, hdefault⟩
  · obtain ⟨hmem, hisDefault⟩ := defaultPack?_eq_some hdefault
    exact ⟨default, List.mem_append_left _ hmem, hisDefault⟩

/-- A pack that is not the default one may be changed, as the default pack
    stays. -/
theorem setPack (hvalid : tables.Valid) {pack row : Pack} (hpack : tables.pack? row.id = some pack)
    (hdefault : pack.isDefault = false) : (tables.setPack row).Sound registry := by
  obtain ⟨hmem, hid⟩ := pack?_eq_some hpack
  obtain ⟨default, hfound, hisDefault⟩ := hsound.hasDefault pack hmem
  refine { hsound with hasDefault := fun _ _ => ⟨default, ?_, hisDefault⟩ }
  refine Rows.mem_replace_iff.2 (.inr ⟨hfound, fun heq => ?_⟩)
  rw [hvalid.pack_eq_of_id hfound hmem (heq.trans hid.symm), hdefault] at hisDefault
  cases hisDefault

/-- A pack that is not the default one may be deleted. -/
theorem withoutPack (hvalid : tables.Valid) {pack : Pack} (hpack : tables.pack? packId = some pack)
    (hdefault : pack.isDefault = false) : (tables.withoutPack packId).Sound registry := by
  obtain ⟨hmem, rfl⟩ := pack?_eq_some hpack
  obtain ⟨default, hfound, hisDefault⟩ := hsound.hasDefault pack hmem
  have hne : default.id ≠ pack.id := by
    intro heq
    rw [hvalid.pack_eq_of_id hfound hmem heq, hdefault] at hisDefault
    cases hisDefault
  exact {
    hasDefault := fun _ _ => ⟨default, List.mem_filter.2 ⟨hfound, by simpa using hne⟩, hisDefault⟩
    templates := fun row hrow => hsound.templates row (List.mem_filter.1 hrow).1
    places := fun row hrow => hsound.places row (List.mem_filter.1 hrow).1
    stories := hsound.stories }

/-- A sound template may be put. -/
theorem put {row : PackTemplate} (hrow : row.Sound registry) : (tables.put row).Sound registry := by
  refine { hsound with templates := fun other hother => ?_ }
  obtain rfl | ⟨hother, -⟩ := mem_templates_put.1 hother
  · exact hrow
  · exact hsound.templates other hother

/-- Any number of sound templates may be put. -/
theorem putAll {rows : List PackTemplate} (hrows : ∀ row ∈ rows, row.Sound registry) :
    (tables.putAll rows).Sound registry := by
  induction rows generalizing tables with
  | nil => exact hsound
  | cons row rows ih =>
    obtain ⟨hrow, hrows⟩ := List.forall_mem_cons.1 hrows
    exact ih (hsound.put hrow) hrows

/-- Sound templates may be refreshed, and those that are left are sound
    already. -/
theorem refreshAll {rows : List PackTemplate} (hrows : ∀ row ∈ rows, row.Sound registry) :
    (tables.refreshAll rows).Sound registry where
  hasDefault := by simpa using hsound.hasDefault
  templates := fun row hrow => (mem_templates_refreshAll hrow).elim (hrows row)
    (hsound.templates row)
  places := by simpa using hsound.places
  stories := by simpa [ReadsStories, stories_refreshAll] using hsound.stories

/-- Variables may be added if their places can be stored. -/
theorem addVariables {items : List (VariableDefinition × Int)}
    (hplaces : ∀ item ∈ items, IsPlace item.2) :
    (tables.addVariables packId items).Sound registry := by
  refine { hsound with places := fun row hrow => ?_ }
  obtain hrow | hrow := List.mem_append.1 hrow
  · exact hsound.places row hrow
  · obtain ⟨item, hitem, heq⟩ := PackVariable.mem_numbered hrow
    rw [heq]
    exact hplaces item hitem

/-- A variable may be replaced if its place can be stored. -/
theorem setVariable {row : PackVariable} (hplace : IsPlace row.sortOrder) :
    (tables.setVariable row).Sound registry := by
  refine { hsound with places := fun other hother => ?_ }
  obtain ⟨rfl, -⟩ | ⟨hother, -⟩ := mem_variables_setVariable.1 hother
  · exact hplace
  · exact hsound.places other hother

theorem deleteVariables (condition : PackVariable → Bool) :
    (tables.deleteVariables condition).Sound registry :=
  { hsound with places := fun row hrow => hsound.places row (List.mem_filter.1 hrow).1 }

/-- A story may be added if its values can be read from their record. -/
theorem addStory {story : Story} (hread : story.record.readValues? = some story.values) :
    (tables.addStory story).Sound registry := by
  refine { hsound with stories := fun other hother => ?_ }
  obtain hother | hother := List.mem_append.1 hother
  · exact hsound.stories other hother
  · obtain rfl := List.mem_singleton.1 hother
    exact hread

/-- A story may be replaced if its values can be read from their record. -/
theorem setStory {row : Story} (hread : row.record.readValues? = some row.values) :
    (tables.setStory row).Sound registry := by
  refine { hsound with stories := fun other hother => ?_ }
  obtain ⟨rfl, -⟩ | ⟨hother, -⟩ := Rows.mem_replace_iff.1 hother
  · exact hread
  · exact hsound.stories other hother

end Sound

end Tables

namespace Store

variable {registry : Registry} {tables : Tables}

section

variable (hvalid : tables.Valid) (hsound : tables.Sound registry)
include hvalid hsound

/-- A seeding keeps the tables valid and sound, and the tables never stand in
    its way. -/
theorem seed_sound : seed.Outcome tables (· ≠ .storage) fun _ after =>
    after.Valid ∧ after.Sound registry := by
  refine (seed_spec hvalid).imp (by simp) ?_
  rintro report after ⟨pack, start, -, hstart, rfl, hafter⟩
  refine ⟨hafter, Tables.Sound.refreshAll ?_ fun row hrow => ?_⟩
  · obtain ⟨-, -, rfl⟩ | ⟨-, -, -, rfl⟩ := hstart
    · exact hsound
    · exact hsound.addPack (.inl rfl)
  · obtain ⟨shipped, hshipped, rfl⟩ := List.mem_map.1 hrow
    exact shipped.sound_row hshipped registry pack.id

/-- Making a pack keeps the tables valid and sound: what is copied has been
    accepted before. -/
theorem createPack_sound (name : String) (description author : Option String) :
    (createPack name description author).Outcome tables (· ≠ .storage) fun _ after =>
      after.Valid ∧ after.Sound registry := by
  refine (createPack_spec hvalid name description author).imp_success ?_
  rintro pack after ⟨default, hdefault, -, -, -, -, rfl, rfl, hafter⟩
  have hadded : (tables.addPack name description author false).Sound registry :=
    hsound.addPack (.inr ⟨default, hdefault⟩)
  refine ⟨hafter, (hadded.putAll fun row hrow => ?_).addVariables fun item hitem => ?_⟩
  · obtain ⟨old, hold, -, rfl⟩ := Tables.mem_templateCopies hrow
    exact (hsound.templates old hold).moved _
  · obtain ⟨old, hold, rfl⟩ := List.mem_map.1 hitem
    exact hsound.places old (List.mem_filter.1 hold).1

/-- Changing a pack touches nothing that soundness looks at. -/
theorem updatePack_sound (packId : Int) (name description author : Option String) :
    (updatePack packId name description author).Outcome tables (· ≠ .storage) fun _ after =>
      after.Valid ∧ after.Sound registry := by
  refine (updatePack_spec hvalid packId name description author).imp_success ?_
  rintro row after ⟨pack, hpack, hdefault, -, -, -, rfl, rfl, hafter⟩
  exact ⟨hafter, hsound.setPack hvalid hpack hdefault⟩

/-- Deleting a pack takes rows away only, and never the default pack. -/
theorem deletePack_sound (packId : Int) :
    (deletePack packId).Outcome tables (· ≠ .storage) fun _ after =>
      after.Valid ∧ after.Sound registry := by
  refine (deletePack_spec hvalid packId).imp_success ?_
  rintro _ after ⟨pack, hpack, hdefault, -, rfl, hafter⟩
  exact ⟨hafter, hsound.withoutPack hvalid hpack hdefault⟩

/-- A template that is set has been accepted, and its hash is computed. -/
theorem setTemplate_sound (packId : Int) (templateId content : String) :
    (setTemplate registry packId templateId content).Outcome tables (· ≠ .storage) fun _ after =>
      after.Valid ∧ after.Sound registry := by
  refine (setTemplate_spec hvalid registry packId templateId content).imp_success ?_
  rintro row after ⟨pack, -, -, -, haccepts, rfl, rfl, hafter⟩
  exact ⟨hafter, hsound.put (haccepts.sound packId)⟩

/-- A template that is reset is one of the default pack, which is sound. -/
theorem resetTemplate_sound (packId : Int) (templateId : String) :
    (resetTemplate packId templateId).Outcome tables (· ≠ .storage) fun _ after =>
      after.Valid ∧ after.Sound registry := by
  refine (resetTemplate_spec hvalid packId templateId).imp_success ?_
  rintro row after ⟨pack, -, -, default, baseline, -, hbaseline, rfl, rfl, hafter⟩
  have hmem := (Tables.template?_eq_some hbaseline).1
  exact ⟨hafter, hsound.put ((hsound.templates baseline hmem).moved packId)⟩

/-- The same for all templates that differ. -/
theorem resetAll_sound (packId : Int) :
    (resetAll packId).Outcome tables (· ≠ .storage) fun _ after =>
      after.Valid ∧ after.Sound registry := by
  refine (resetAll_spec hvalid packId).imp_success ?_
  rintro count after ⟨pack, -, -, default, -, -, rfl, hafter⟩
  refine ⟨hafter, hsound.putAll fun row hrow => ?_⟩
  obtain ⟨baseline, hbaseline, rfl⟩ := List.mem_map.1 hrow
  exact (hsound.templates baseline (Tables.mem_differing hbaseline).1).moved packId

/-- Making a variable keeps the tables valid and sound. It is the one request
    that the tables can turn down, exactly if no place is given and all are used
    up. -/
theorem createVariable_sound (packId : Int) (definition : VariableDefinition)
    (sortOrder : Option Int) (hplace : ∀ place, sortOrder = some place → IsPlace place) :
    (createVariable packId definition sortOrder).Outcome tables
      (fun reason => reason = .storage ↔ sortOrder = none ∧ tables.LacksPlace packId definition)
      fun _ after => ¬(sortOrder = none ∧ tables.LacksPlace packId definition) ∧
        after.Valid ∧ after.Sound registry := by
  refine (createVariable_spec hvalid (fun row hrow => (hsound.places row hrow).2) packId definition
    sortOrder).imp_success ?_
  rintro row after ⟨pack, -, -, -, -, hnext, -, rfl, hafter⟩
  refine ⟨?_, hafter, hsound.addVariables fun item hitem => ?_⟩
  · rintro ⟨hnone, hlacks⟩
    exact absurd (hnext hnone) (Int.not_le.2 hlacks.maxInt64_lt_nextPlace)
  · obtain rfl := List.mem_singleton.1 hitem
    cases sortOrder with
    | none => exact hsound.nextPlace (hnext rfl)
    | some place => exact hplace place rfl

/-- A variable that is changed has passed the rules, and its place can be
    stored. -/
theorem updateVariable_sound (packId variableId : Int) (patch : VariablePatch)
    (hplace : ∀ place, patch.sortOrder = some place → IsPlace place) :
    (updateVariable packId variableId patch).Outcome tables (· ≠ .storage) fun _ after =>
      after.Valid ∧ after.Sound registry := by
  refine (updateVariable_spec hvalid packId variableId patch).imp_success ?_
  rintro row after ⟨pack, -, -, existing, hexisting, -, -, rfl, rfl, hafter⟩
  refine ⟨hafter, hsound.setVariable ?_⟩
  change IsPlace (patch.sortOrder.getD existing.sortOrder)
  cases hgiven : patch.sortOrder with
  | none => exact hsound.places existing (Tables.variableRow?_eq_some hexisting).1
  | some place => exact hplace place hgiven

/-- Deleting a variable takes a row away, and never one that templates could not
    do without for being sound. -/
theorem deleteVariable_sound (packId variableId : Int) :
    (deleteVariable packId variableId).Outcome tables (· ≠ .storage) fun _ after =>
      after.Valid ∧ after.Sound registry := by
  refine (deleteVariable_spec hvalid packId variableId).imp_success ?_
  rintro _ after ⟨pack, -, -, existing, -, -, rfl, hafter⟩
  exact ⟨hafter, hsound.deleteVariables _⟩

/-- What is imported has been accepted, and what it lacks comes from the default
    pack. -/
theorem importPack_sound (envelope : Envelope)
    (hplaces : ∀ exported ∈ envelope.variables, IsPlace exported.sortOrder) :
    (importPack registry envelope).Outcome tables (· ≠ .storage) fun _ after =>
      after.Valid ∧ after.Sound registry := by
  refine (importPack_spec hvalid registry envelope).imp_success ?_
  rintro pack after ⟨-, haccepts, default, hdefault, rfl, rfl, hafter⟩
  refine ⟨hafter, Tables.Sound.addVariables (Tables.Sound.putAll (Tables.Sound.putAll
    (hsound.addPack (.inr ⟨default, hdefault⟩)) fun row hrow => ?_) fun row hrow => ?_)
    fun item hitem => ?_⟩
  · obtain ⟨template, htemplate, rfl⟩ := List.mem_map.1 hrow
    exact (haccepts template htemplate).sound _
  · obtain ⟨old, hold, rfl⟩ := List.mem_map.1 hrow
    exact (hsound.templatesOf (List.mem_filter.1 hold).1).moved _
  · obtain ⟨exported, hexported, rfl⟩ := List.mem_map.1 hitem
    exact hplaces exported hexported

/-- Assigning a pack changes no values, so they can still be read. -/
theorem assignPack_sound (storyId packId : Int) :
    (assignPack storyId packId).Outcome tables (· ≠ .storage) fun _ after =>
      after.Valid ∧ after.Sound registry := by
  refine (assignPack_spec hvalid hsound.stories storyId packId).imp_success ?_
  rintro row after ⟨story, hstory, -, rfl, rfl, hafter⟩
  exact ⟨hafter, hsound.setStory (hsound.stories story (Tables.story?_eq_some hstory).1)⟩

/-- The values that a story is given can be read back, as they are scalars if
    they are accepted, and as their numbers can be stored. -/
theorem setStoryValues_sound (storyId : Int) {values : Dictionary Json}
    (hexact : ∀ entry ∈ values.entries, entry.2.IsExact) :
    (setStoryValues storyId values).Outcome tables (· ≠ .storage) fun _ after =>
      after.Valid ∧ after.Sound registry := by
  refine (setStoryValues_spec hvalid hsound.stories storyId values).imp_success ?_
  rintro answer after ⟨story, -, hcheck, -, rfl, hafter⟩
  refine ⟨hafter, hsound.setStory (Story.readValues?_record fun entry hentry => ?_)⟩
  exact ⟨hexact entry hentry, depth_of_checkOverrides_eq_ok hcheck entry hentry⟩

/-- A new story has no values, which can always be read. -/
theorem createStory_sound (title : String) (genre mode pov tense protagonistName : Option String)
    (packId : Int) :
    (createStory title genre mode pov tense protagonistName packId).Outcome tables
      (fun _ => True) fun _ after => after.Valid ∧ after.Sound registry := by
  refine (createStory_spec hvalid title genre mode pov tense protagonistName packId).imp
    (fun _ _ => trivial) ?_
  rintro row after ⟨-, rfl, rfl, hafter⟩
  exact ⟨hafter, hsound.addStory (Story.readValues?_record (by simp [Dictionary.empty]))⟩

end

end Store

end PromptPacks
