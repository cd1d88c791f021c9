import PromptPacks.Proofs.Store.Rows
import PromptPacks.Store.Tables

namespace PromptPacks

/-- What identifies a template: its pack and its identifier within the pack. -/
def PackTemplate.key (row : PackTemplate) : Int × String :=
  (row.packId, row.templateId)

/-- What identifies a variable besides its number: its pack and its name within
    the pack. -/
def PackVariable.key (row : PackVariable) : Int × String :=
  (row.packId, row.name)

namespace Tables

def HasPack (tables : Tables) (packId : Int) : Prop :=
  ∃ pack ∈ tables.packs, pack.id = packId

/-- The constraints on the tables: keys are distinct, there is at most one
    default pack, no identifier is ahead of its counter, and every reference to
    a pack leads to one. -/
structure Valid (tables : Tables) : Prop where
  packIds : (tables.packs.map (·.id)).Nodup
  packNames : (tables.packs.map (·.name)).Nodup
  oneDefault : ∀ a ∈ tables.packs, ∀ b ∈ tables.packs,
    a.isDefault = true → b.isDefault = true → a = b
  packsCounted : ∀ pack ∈ tables.packs, pack.id ≤ tables.lastPack
  templateKeys : (tables.templates.map PackTemplate.key).Nodup
  templatePacks : ∀ row ∈ tables.templates, tables.HasPack row.packId
  variableIds : (tables.variables.map (·.id)).Nodup
  variableKeys : (tables.variables.map PackVariable.key).Nodup
  variablesCounted : ∀ row ∈ tables.variables, row.id ≤ tables.lastVariable
  variablePacks : ∀ row ∈ tables.variables, tables.HasPack row.packId
  storyIds : (tables.stories.map (·.id)).Nodup
  storiesCounted : ∀ story ∈ tables.stories, story.id ≤ tables.lastStory
  storyPacks : ∀ story ∈ tables.stories, tables.HasPack story.packId

theorem Valid.empty : Tables.empty.Valid := by
  constructor <;> simp [Tables.empty]

variable {tables after : Tables}

/-- A pack is found exactly if there is one with the identifier. -/
theorem pack?_isSome_iff {packId : Int} :
    (tables.pack? packId).isSome = true ↔ tables.HasPack packId := by
  simp [pack?, HasPack, List.find?_isSome]

/-- A pack that is found is in the tables and has the identifier. -/
theorem pack?_eq_some {packId : Int} {pack : Pack} (hpack : tables.pack? packId = some pack) :
    pack ∈ tables.packs ∧ pack.id = packId :=
  ⟨List.mem_of_find?_eq_some hpack, by simpa using List.find?_some hpack⟩

/-- A pack that is found exists. -/
theorem hasPack_of_pack?_eq_some {packId : Int} {pack : Pack}
    (hpack : tables.pack? packId = some pack) : tables.HasPack packId :=
  ⟨pack, pack?_eq_some hpack⟩

/-- A default pack that is found is in the tables and is the default one. -/
theorem defaultPack?_eq_some {pack : Pack} (hpack : tables.defaultPack? = some pack) :
    pack ∈ tables.packs ∧ pack.isDefault = true :=
  ⟨List.mem_of_find?_eq_some hpack, List.find?_some hpack⟩

/-- No default pack is found exactly if no pack is the default one. -/
theorem defaultPack?_eq_none :
    tables.defaultPack? = none ↔ ∀ pack ∈ tables.packs, pack.isDefault = false := by
  simp [defaultPack?, List.find?_eq_none]

/-- No pack is found under a name exactly if no pack has it. -/
theorem packNamed?_eq_none {name : String} :
    tables.packNamed? name = none ↔ ∀ pack ∈ tables.packs, pack.name ≠ name := by
  simp [packNamed?, List.find?_eq_none]

/-- A template that is found is in the tables and has the key. -/
theorem template?_eq_some {packId : Int} {templateId : String} {row : PackTemplate}
    (hrow : tables.template? packId templateId = some row) :
    row ∈ tables.templates ∧ row.packId = packId ∧ row.templateId = templateId := by
  refine ⟨List.mem_of_find?_eq_some hrow, ?_⟩
  simpa using List.find?_some hrow

/-- No template is found exactly if its key is not in use. -/
theorem template?_eq_none {packId : Int} {templateId : String} :
    tables.template? packId templateId = none ↔
      (packId, templateId) ∉ tables.templates.map PackTemplate.key := by
  simp [template?, List.find?_eq_none, PackTemplate.key]

/-- A variable that is found is in the tables and has the number. -/
theorem variableRow?_eq_some {variableId : Int} {row : PackVariable}
    (hrow : tables.variableRow? variableId = some row) :
    row ∈ tables.variables ∧ row.id = variableId :=
  ⟨List.mem_of_find?_eq_some hrow, by simpa using List.find?_some hrow⟩

/-- No variable is found exactly if no variable has the key. -/
theorem variableNamed?_eq_none {packId : Int} {name : String} :
    tables.variableNamed? packId name = none ↔
      ∀ row ∈ tables.variables, row.key ≠ (packId, name) := by
  simp [variableNamed?, List.find?_eq_none, PackVariable.key]

/-- A story that is found is in the tables and has the number. -/
theorem story?_eq_some {storyId : Int} {story : Story}
    (hstory : tables.story? storyId = some story) :
    story ∈ tables.stories ∧ story.id = storyId :=
  ⟨List.mem_of_find?_eq_some hstory, by simpa using List.find?_some hstory⟩

/-- The listing of a pack has exactly its templates. -/
theorem mem_templatesOf {packId : Int} {row : PackTemplate} :
    row ∈ tables.templatesOf packId ↔ row ∈ tables.templates ∧ row.packId = packId := by
  simp [templatesOf, List.mem_mergeSort]

theorem mem_packNames {name : String} :
    name ∈ tables.packNames ↔ ∃ pack ∈ tables.packs, pack.name = name := by
  simp [packNames, List.mem_mergeSort]

/-- No stories are counted exactly if no story uses the pack. -/
theorem storyCount_eq_zero {packId : Int} :
    tables.storyCount packId = 0 ↔ ∀ story ∈ tables.stories, story.packId ≠ packId := by
  simp [storyCount, List.countP_eq_zero]

namespace Valid

variable (hvalid : tables.Valid)
include hvalid

/-- A row is the one that a search for its pack and its identifier finds, since
    no other row has its key. -/
theorem template?_of_mem {row : PackTemplate} (hrow : row ∈ tables.templates) :
    tables.template? row.packId row.templateId = some row := by
  refine Rows.find?_eq_some_of_nodup hvalid.templateKeys hrow fun other _ => ?_
  simp [PackTemplate.key, Prod.ext_iff]

/-- A pack is the one that a search for its identifier finds. -/
theorem pack?_of_mem {pack : Pack} (hpack : pack ∈ tables.packs) :
    tables.pack? pack.id = some pack :=
  Rows.find?_eq_some_of_nodup hvalid.packIds hpack fun other _ => by simp

/-- A search for a pack finds the only one there is, so what is said of some
    pack with the identifier is said of the one that is found. -/
theorem exists_pack_iff {packId : Int} {condition : Pack → Prop} :
    (∃ pack ∈ tables.packs, pack.id = packId ∧ condition pack) ↔
      ∃ pack, tables.pack? packId = some pack ∧ condition pack := by
  constructor
  · rintro ⟨pack, hpack, rfl, hcondition⟩
    exact ⟨pack, hvalid.pack?_of_mem hpack, hcondition⟩
  · rintro ⟨pack, hpack, hcondition⟩
    obtain ⟨hmem, hid⟩ := pack?_eq_some hpack
    exact ⟨pack, hmem, hid, hcondition⟩

/-- A story is the one that a search for its number finds. -/
theorem story?_of_mem {story : Story} (hstory : story ∈ tables.stories) :
    tables.story? story.id = some story :=
  Rows.find?_eq_some_of_nodup hvalid.storyIds hstory fun other _ => by simp

/-- A pack is the one that a search for its name finds. -/
theorem packNamed?_of_mem {pack : Pack} (hpack : pack ∈ tables.packs) :
    tables.packNamed? pack.name = some pack :=
  Rows.find?_eq_some_of_nodup hvalid.packNames hpack fun other _ => by simp

/-- A default pack is the one that a search for it finds, as there is only one. -/
theorem defaultPack?_of_mem {pack : Pack} (hpack : pack ∈ tables.packs)
    (hdefault : pack.isDefault = true) : tables.defaultPack? = some pack := by
  cases hfound : tables.defaultPack? with
  | none => exact absurd (defaultPack?_eq_none.1 hfound pack hpack) (by simp [hdefault])
  | some other =>
    obtain ⟨hother, hisDefault⟩ := defaultPack?_eq_some hfound
    rw [hvalid.oneDefault other hother pack hpack hisDefault hdefault]

/-- Packs with one identifier are one pack. -/
theorem pack_eq_of_id {a b : Pack} (ha : a ∈ tables.packs) (hb : b ∈ tables.packs)
    (hid : a.id = b.id) : a = b :=
  List.inj_on_of_nodup_map hvalid.packIds ha hb hid

/-- Packs with one name are one pack. -/
theorem pack_eq_of_name {a b : Pack} (ha : a ∈ tables.packs) (hb : b ∈ tables.packs)
    (hname : a.name = b.name) : a = b :=
  List.inj_on_of_nodup_map hvalid.packNames ha hb hname

/-- Templates with one key are one template. -/
theorem template_eq_of_id {a b : PackTemplate} (ha : a ∈ tables.templates)
    (hb : b ∈ tables.templates) (hpack : a.packId = b.packId)
    (hid : a.templateId = b.templateId) : a = b := by
  refine List.inj_on_of_nodup_map hvalid.templateKeys ha hb ?_
  rw [PackTemplate.key, PackTemplate.key, hpack, hid]

/-- The next identifier of a pack belongs to none yet, as all are up to the
    counter. -/
theorem not_hasPack_next : ¬tables.HasPack (tables.lastPack + 1) := by
  rintro ⟨pack, hpack, hid⟩
  have hcounted := hvalid.packsCounted pack hpack
  omega

/-- No template belongs to the next pack yet. -/
theorem template_packId_ne_next {row : PackTemplate} (hrow : row ∈ tables.templates) :
    row.packId ≠ tables.lastPack + 1 :=
  fun howner => hvalid.not_hasPack_next (howner ▸ hvalid.templatePacks row hrow)

/-- No variable belongs to the next pack yet. -/
theorem variable_packId_ne_next {row : PackVariable} (hrow : row ∈ tables.variables) :
    row.packId ≠ tables.lastPack + 1 :=
  fun howner => hvalid.not_hasPack_next (howner ▸ hvalid.variablePacks row hrow)

/-- Whatever pack is inserted, the constraints are kept. That the insertion is
    allowed is its own condition. -/
theorem insertPack? {name : String} {description author : Option String} {isDefault : Bool}
    {pack : Pack}
    (hinsert : tables.insertPack? name description author isDefault = some (pack, after)) :
    after.Valid := by
  simp only [Tables.insertPack?] at hinsert
  split at hinsert
  · cases hinsert
  · rename_i hfree
    simp only [Option.some.injEq, Prod.mk.injEq] at hinsert
    obtain ⟨-, rfl⟩ := hinsert
    simp only [Bool.or_eq_true, Bool.and_eq_true, not_or, not_and, Bool.not_eq_true,
      Option.isSome_eq_false_iff, Option.isNone_iff_eq_none] at hfree
    obtain ⟨hname, hdefault⟩ := hfree
    have hkeeps : ∀ packId, tables.HasPack packId →
        HasPack { tables with packs := tables.packs ++
          [⟨tables.lastPack + 1, name, description, author, isDefault⟩] } packId := by
      rintro packId ⟨pack, hpack, hid⟩
      exact ⟨pack, List.mem_append_left _ hpack, hid⟩
    refine { hvalid with
      packIds := Rows.nodup_map_concat hvalid.packIds fun old hold heq => ?_
      packNames := Rows.nodup_map_concat hvalid.packNames (packNamed?_eq_none.1 hname)
      oneDefault := ?_
      packsCounted := ?_
      templatePacks := fun row hrow => hkeeps _ (hvalid.templatePacks row hrow)
      variablePacks := fun row hrow => hkeeps _ (hvalid.variablePacks row hrow)
      storyPacks := fun story hstory => hkeeps _ (hvalid.storyPacks story hstory) }
    · exact hvalid.not_hasPack_next ⟨old, hold, heq⟩
    · intro a ha b hb hda hdb
      simp only [List.mem_append, List.mem_singleton] at ha hb
      rcases ha with ha | rfl <;> rcases hb with hb | rfl
      · exact hvalid.oneDefault a ha b hb hda hdb
      · have hnone := defaultPack?_eq_none.1 (hdefault hdb) a ha
        simp [hnone] at hda
      · have hnone := defaultPack?_eq_none.1 (hdefault hda) b hb
        simp [hnone] at hdb
      · rfl
    · intro pack hpack
      simp only [List.mem_append, List.mem_singleton] at hpack
      rcases hpack with hpack | rfl
      · have hcounted := hvalid.packsCounted pack hpack
        push_cast
        omega
      · push_cast
        omega

/-- A pack may get another name that no other pack has. It stays the default one
    or not. -/
theorem replacePack? {row : Pack} (hreplace : tables.replacePack? row = some after)
    (hdefault : ∀ old ∈ tables.packs, old.id = row.id → old.isDefault = row.isDefault) :
    after.Valid := by
  simp only [Tables.replacePack?] at hreplace
  split at hreplace
  · cases hreplace
  · rename_i hfree
    simp only [Option.some.injEq] at hreplace
    subst hreplace
    simp only [List.any_eq_true, Bool.and_eq_true, beq_iff_eq, bne_iff_ne, not_exists, not_and,
      ne_eq, not_not] at hfree
    simp only [beq_iff_eq]
    have hids := Rows.map_key_replace (·.id) row tables.packs
    have hkeeps : ∀ packId, tables.HasPack packId →
        HasPack { tables with packs := tables.packs.map fun other =>
          if other.id = row.id then row else other } packId := by
      rintro packId ⟨pack, hpack, hid⟩
      have hmem : packId ∈ tables.packs.map (·.id) := hid ▸ List.mem_map_of_mem hpack
      rw [← hids] at hmem
      exact List.mem_map.1 hmem
    refine { hvalid with
      packIds := by rw [hids]; exact hvalid.packIds
      packNames := Rows.nodup_map_replace hvalid.packIds hvalid.packNames hfree
      oneDefault := fun a ha b hb hda hdb => ?_
      packsCounted := fun pack hpack => ?_
      templatePacks := fun row hrow => hkeeps _ (hvalid.templatePacks row hrow)
      variablePacks := fun row hrow => hkeeps _ (hvalid.variablePacks row hrow)
      storyPacks := fun story hstory => hkeeps _ (hvalid.storyPacks story hstory) }
    · obtain ⟨rfl, olda, holda, hida⟩ | ⟨hmema, hida⟩ := Rows.mem_replace_iff.1 ha <;>
        obtain ⟨rfl, oldb, holdb, hidb⟩ | ⟨hmemb, hidb⟩ := Rows.mem_replace_iff.1 hb
      · rfl
      · have hold := hdefault olda holda hida
        have heq := hvalid.oneDefault olda holda b hmemb (hold.trans hda) hdb
        exact absurd (heq ▸ hida) hidb
      · have hold := hdefault oldb holdb hidb
        have heq := hvalid.oneDefault a hmema oldb holdb hda (hold.trans hdb)
        exact absurd (heq ▸ hidb) hida
      · exact hvalid.oneDefault a hmema b hmemb hda hdb
    · obtain ⟨rfl, old, hold, hid⟩ | ⟨hpack, -⟩ := Rows.mem_replace_iff.1 hpack
      · exact hid ▸ hvalid.packsCounted old hold
      · exact hvalid.packsCounted pack hpack

/-- No row refers to a deleted pack, as its templates and variables go with it
    and no story may use it. -/
theorem deletePack? {packId : Int} (hdelete : tables.deletePack? packId = some after) :
    after.Valid := by
  simp only [Tables.deletePack?] at hdelete
  split at hdelete
  · cases hdelete
  · rename_i hunused
    simp only [Option.some.injEq] at hdelete
    subst hdelete
    simp only [List.any_eq_true, beq_iff_eq, not_exists, not_and] at hunused
    have hkeeps : ∀ other ≠ packId, tables.HasPack other →
        ∃ pack ∈ tables.packs.filter (·.id != packId), pack.id = other := by
      rintro other hother ⟨pack, hpack, hid⟩
      exact ⟨pack, List.mem_filter.2 ⟨hpack, by simpa [hid] using hother⟩, hid⟩
    have hmem : ∀ {α : Type} {rows : List α} {pack : α → Int} {row : α},
        row ∈ rows.filter (pack · != packId) → row ∈ rows ∧ pack row ≠ packId := by
      intro α rows pack row hrow
      simpa using hrow
    exact { hvalid with
      packIds := Rows.nodup_map_filter hvalid.packIds _
      packNames := Rows.nodup_map_filter hvalid.packNames _
      oneDefault := fun a ha b hb => hvalid.oneDefault a (hmem ha).1 b (hmem hb).1
      packsCounted := fun pack hpack => hvalid.packsCounted pack (hmem hpack).1
      templateKeys := Rows.nodup_map_filter hvalid.templateKeys _
      templatePacks := fun row hrow =>
        hkeeps _ (hmem hrow).2 (hvalid.templatePacks row (hmem hrow).1)
      variableIds := Rows.nodup_map_filter hvalid.variableIds _
      variableKeys := Rows.nodup_map_filter hvalid.variableKeys _
      variablesCounted := fun row hrow => hvalid.variablesCounted row (hmem hrow).1
      variablePacks := fun row hrow =>
        hkeeps _ (hmem hrow).2 (hvalid.variablePacks row (hmem hrow).1)
      storyPacks := fun story hstory =>
        hkeeps _ (hunused story hstory) (hvalid.storyPacks story hstory) }

/-- Whatever variable is inserted, the constraints are kept, as the insertion
    has asked for each of them. The number is new because the counter is above
    all numbers. -/
theorem insertVariable? {packId : Int} {definition : VariableDefinition} {sortOrder : Int}
    {row : PackVariable}
    (hinsert : tables.insertVariable? packId definition sortOrder = some (row, after)) :
    after.Valid := by
  simp only [Tables.insertVariable?] at hinsert
  split at hinsert
  · cases hinsert
  · rename_i hfree
    simp only [Option.some.injEq, Prod.mk.injEq] at hinsert
    obtain ⟨-, rfl⟩ := hinsert
    simp only [Bool.or_eq_true, not_or, Option.isNone_iff_eq_none, Bool.not_eq_true,
      Option.isSome_eq_false_iff, ← Option.isSome_iff_ne_none] at hfree
    obtain ⟨⟨hpack, hname⟩, -⟩ := hfree
    refine { hvalid with
      variableIds := Rows.nodup_map_concat hvalid.variableIds fun old hold heq => ?_
      variableKeys := Rows.nodup_map_concat hvalid.variableKeys (variableNamed?_eq_none.1 hname)
      variablesCounted := fun row hrow => ?_
      variablePacks := fun row hrow => ?_ }
    · have hcounted := hvalid.variablesCounted old hold
      simp only [PackVariable.ofDefinition] at heq
      omega
    · simp only [List.mem_append, List.mem_singleton] at hrow
      rcases hrow with hrow | rfl
      · have hcounted := hvalid.variablesCounted row hrow
        push_cast
        omega
      · simp [PackVariable.ofDefinition]
    · simp only [List.mem_append, List.mem_singleton] at hrow
      rcases hrow with hrow | rfl
      · exact hvalid.variablePacks row hrow
      · exact pack?_isSome_iff.1 hpack

/-- A variable may get another name that no other variable of its pack has. It
    has to stay in its pack. -/
theorem replaceVariable? {row : PackVariable} (hreplace : tables.replaceVariable? row = some after)
    (hpack : ∀ old ∈ tables.variables, old.id = row.id → old.packId = row.packId) :
    after.Valid := by
  simp only [Tables.replaceVariable?] at hreplace
  split at hreplace
  · cases hreplace
  · rename_i hfree
    simp only [Option.some.injEq] at hreplace
    subst hreplace
    simp only [Bool.or_eq_true, not_or, List.any_eq_true, Bool.and_eq_true, beq_iff_eq, bne_iff_ne,
      not_exists, not_and, ne_eq, not_not, and_imp] at hfree
    replace hfree := hfree.1
    simp only [beq_iff_eq]
    refine { hvalid with
      variableIds := by
        rw [Rows.map_key_replace (·.id) row tables.variables]
        exact hvalid.variableIds
      variableKeys := Rows.nodup_map_replace hvalid.variableIds hvalid.variableKeys
        fun other hother hkey => ?_
      variablesCounted := fun other hother => ?_
      variablePacks := fun other hother => ?_ }
    · simp only [PackVariable.key, Prod.mk.injEq] at hkey
      exact hfree other hother hkey.1 hkey.2
    · obtain ⟨rfl, old, hold, hid⟩ | ⟨hother, -⟩ := Rows.mem_replace_iff.1 hother
      · exact hid ▸ hvalid.variablesCounted old hold
      · exact hvalid.variablesCounted other hother
    · obtain ⟨rfl, old, hold, hid⟩ | ⟨hother, -⟩ := Rows.mem_replace_iff.1 hother
      · exact hpack old hold hid ▸ hvalid.variablePacks old hold
      · exact hvalid.variablePacks other hother

/-- Deleting variables breaks no constraint, as nothing refers to them. -/
theorem deleteVariables (condition : PackVariable → Bool) :
    (tables.deleteVariables condition).Valid :=
  { hvalid with
    variableIds := Rows.nodup_map_filter hvalid.variableIds _
    variableKeys := Rows.nodup_map_filter hvalid.variableKeys _
    variablesCounted := fun row hrow => hvalid.variablesCounted row (List.mem_filter.1 hrow).1
    variablePacks := fun row hrow => hvalid.variablePacks row (List.mem_filter.1 hrow).1 }

/-- Whatever story is inserted, the constraints are kept. The number that it
    brings with it is not used. -/
theorem insertStory? {story row : Story}
    (hinsert : tables.insertStory? story = some (row, after)) : after.Valid := by
  simp only [Tables.insertStory?] at hinsert
  split at hinsert
  · cases hinsert
  · rename_i hpack
    simp only [Option.some.injEq, Prod.mk.injEq] at hinsert
    obtain ⟨-, rfl⟩ := hinsert
    simp only [Option.isNone_iff_eq_none, ← Option.isSome_iff_ne_none] at hpack
    refine { hvalid with
      storyIds := Rows.nodup_map_concat hvalid.storyIds fun old hold heq => ?_
      storiesCounted := fun other hother => ?_
      storyPacks := fun other hother => ?_ }
    · have hcounted := hvalid.storiesCounted old hold
      simp only at heq
      omega
    · simp only [List.mem_append, List.mem_singleton] at hother
      rcases hother with hother | rfl
      · have hcounted := hvalid.storiesCounted other hother
        push_cast
        omega
      · push_cast
        omega
    · simp only [List.mem_append, List.mem_singleton] at hother
      rcases hother with hother | rfl
      · exact hvalid.storyPacks other hother
      · exact pack?_isSome_iff.1 hpack

/-- Whatever story is replaced, the constraints are kept. Its pack has to exist
    afterwards, which is the one thing that the replacement asks for. -/
theorem replaceStory? {row : Story} (hreplace : tables.replaceStory? row = some after) :
    after.Valid := by
  simp only [Tables.replaceStory?] at hreplace
  split at hreplace
  · cases hreplace
  · rename_i hpack
    simp only [Option.some.injEq] at hreplace
    subst hreplace
    simp only [Option.isNone_iff_eq_none, ← Option.isSome_iff_ne_none] at hpack
    simp only [beq_iff_eq]
    refine { hvalid with
      storyIds := by
        rw [Rows.map_key_replace (·.id) row tables.stories]
        exact hvalid.storyIds
      storiesCounted := fun other hother => ?_
      storyPacks := fun other hother => ?_ }
    · obtain ⟨rfl, old, hold, hid⟩ | ⟨hother, -⟩ := Rows.mem_replace_iff.1 hother
      · exact hid ▸ hvalid.storiesCounted old hold
      · exact hvalid.storiesCounted other hother
    · obtain ⟨rfl, -⟩ | ⟨hother, -⟩ := Rows.mem_replace_iff.1 hother
      · exact pack?_isSome_iff.1 hpack
      · exact hvalid.storyPacks other hother

end Valid

end Tables

end PromptPacks
