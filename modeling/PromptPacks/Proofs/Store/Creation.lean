import PromptPacks.Proofs.Store.Copies
import PromptPacks.Proofs.Store.Repair

namespace PromptPacks

open PromptPacks.Store PromptPacks.Transaction

namespace Tables

/-- What a new pack adds to the tables: the templates of another pack under its
    own number, and the variables of that pack with numbers of their own. All
    earlier rows are as before. -/
structure HoldsCopy (tables : Tables) (source : Int) (new : Pack) (after : Tables) : Prop where
  isNew : ¬tables.HasPack new.id
  packs : after.packs = tables.packs ++ [new]
  templates : after.templates = tables.templates ++
    (tables.templates.filter (·.packId == source)).map (·.moved new.id)
  ownTemplates : after.templates.filter (·.packId == new.id) =
    (tables.templates.filter (·.packId == source)).map (·.moved new.id)
  «variables» : ∃ rows, after.variables = tables.variables ++ rows ∧
    after.variables.filter (·.packId == new.id) = rows ∧
    List.Forall₂ (fun row old => row = { old with id := row.id, packId := new.id }) rows
      (tables.variables.filter (·.packId == source))
  stories : after.stories = tables.stories

variable {tables after : Tables} {source : Int} {new default : Pack}

/-- Templates of a pack that is yet to be added are all that belong to it, since
    its identifier is a new one. -/
theorem Valid.filter_templates_next (hvalid : tables.Valid) (rows : List PackTemplate) :
    (tables.templates ++ rows.map (·.moved (tables.lastPack + 1))).filter
      (·.packId == (tables.lastPack + 1 : Int)) = rows.map (·.moved (tables.lastPack + 1)) := by
  refine Rows.filter_append_eq_right (fun row hrow => ?_) fun row hrow => ?_
  · simpa using hvalid.template_packId_ne_next hrow
  · obtain ⟨other, -, rfl⟩ := List.mem_map.1 hrow
    simp [PackTemplate.moved]

/-- Tables to which a pack and the copies have been added hold a copy: one row
    for each template, and all old rows as they were. -/
theorem Valid.holdsCopy (hvalid : tables.Valid) (source : Int) (name : String)
    (description author : Option String) :
    tables.HoldsCopy source ⟨tables.lastPack + 1, name, description, author, false⟩
      (tables.withCopy source name description author) := by
  have hids : ((tables.templates.filter (·.packId == source)).map (·.templateId)).Nodup :=
    (templatesOf_perm.map _).nodup_iff.1 (hvalid.nodup_templateIds source)
  have htemplates : (tables.withCopy source name description author).templates =
      tables.templates ++ (tables.templates.filter (·.packId == source)).map
        (·.moved (tables.lastPack + 1)) :=
    hvalid.templates_putAll_next hids
  have hvariables : (tables.withCopy source name description author).variables =
      tables.variables ++ PackVariable.numbered (tables.lastPack + 1) tables.lastVariable
        (tables.variableCopies source) := by
    rw [withCopy, Tables.addVariables, variables_putAll, lastVariable_putAll]
    rfl
  exact {
    isNew := hvalid.not_hasPack_next
    packs := by
      rw [withCopy, Tables.addVariables, packs_putAll]
      rfl
    templates := htemplates
    ownTemplates := by
      rw [htemplates]
      exact hvalid.filter_templates_next _
    «variables» := by
      refine ⟨_, hvariables, ?_, PackVariable.forall₂_numbered _ _ _⟩
      rw [hvariables]
      exact hvalid.filter_variables_next _ _
    stories := by
      rw [withCopy, Tables.addVariables, stories_putAll]
      rfl }

/-- The copies are listed in the order of the templates that they are copies of,
    as the listing goes by identifiers. -/
theorem HoldsCopy.templatesOf_eq (hcopy : tables.HoldsCopy source new after) :
    after.templatesOf new.id = (tables.templatesOf source).map (·.moved new.id) := by
  rw [templatesOf, hcopy.ownTemplates, templatesOf, List.map_mergeSort]
  intro a _ b _
  rfl

/-- Nothing that has been copied from the default pack counts as modified. The
    hash is copied with the content, so no collision matters. -/
theorem HoldsCopy.statuses_eq_ok (hcopy : tables.HoldsCopy default.id new after)
    (hafter : after.Valid) (hnew : new.isDefault = false) (hdefault : default ∈ tables.packs)
    (hisDefault : default.isDefault = true) :
    statuses new.id after = .ok ((tables.templatesOf default.id).map fun row =>
      (row.templateId, .unmodified), after) := by
  have hmem : ∀ pack ∈ tables.packs ++ [new], pack ∈ after.packs := by
    rw [hcopy.packs]
    exact fun _ hpack => hpack
  have hfound := hafter.pack?_of_mem (hmem new (by simp))
  have hbaseline := hafter.defaultPack?_of_mem (hmem default (by simp [hdefault])) hisDefault
  rw [Store.statuses_eq_ok hfound hnew hbaseline, hcopy.templatesOf_eq, List.map_map]
  congr 2
  refine List.map_congr_left fun row hrow => ?_
  obtain ⟨hrow, howner⟩ := mem_templatesOf.1 hrow
  have hkept : row ∈ after.templates := by
    rw [hcopy.templates]
    exact List.mem_append_left _ hrow
  have hsource : after.template? default.id row.templateId = some row :=
    howner ▸ hafter.template?_of_mem hkept
  simp [PackTemplate.moved, hsource, TemplateStatus.ofHashes]

/-- A pack is created exactly if all conditions hold, and otherwise the first
    one that does not tells why. The new pack is a copy of everything in the
    default pack, so that all its templates count as unmodified. -/
theorem Valid.createPack_copies (hvalid : tables.Valid) (name : String)
    (description author : Option String) :
    ((∃ new after, createPack name description author tables = .ok (new, after)) ↔
      ∀ condition ∈ tables.conditionsForPack name description author, condition.holds) ∧
    (∀ reason, createPack name description author tables = .error reason ↔
      ∃ refusal, reason = .refused refusal ∧
        FirstBroken (tables.conditionsForPack name description author) refusal) ∧
    ∀ new after, createPack name description author tables = .ok (new, after) →
      new = ⟨new.id, name, description, author, false⟩ ∧ after.Valid ∧
      ∃ default ∈ tables.packs, default.isDefault = true ∧
        tables.HoldsCopy default.id new after ∧
        statuses new.id after = .ok ((tables.templatesOf default.id).map fun row =>
          (row.templateId, .unmodified), after) := by
  have houtcome := createPack_outcome hvalid name description author
  refine ⟨houtcome.eq_ok_iff_holds, fun reason => houtcome.eq_error_iff_firstBroken,
    fun new after hrun => ?_⟩
  obtain ⟨-, default, hdefault, rfl, rfl, hafter⟩ := houtcome.of_ok hrun
  obtain ⟨hmem, hisDefault⟩ := defaultPack?_eq_some hdefault
  have hcopy := hvalid.holdsCopy default.id name description author
  exact ⟨rfl, hafter, default, hmem, hisDefault, hcopy,
    hcopy.statuses_eq_ok hafter rfl hmem hisDefault⟩

/-- From a default pack with a template and a variable of its own, a new pack
    gets both. A blank name is turned down, and so is one that is in use. -/
theorem createPack_copies_neglected :
    (∃ new after row, createPack "Copy" none (some "Ada") neglected = .ok (new, after) ∧
      ⟨new.id, "own-note", "Note.", "unknown"⟩ ∈ after.templates ∧
      after.variables = neglected.variables ++ [row] ∧ row.packId = new.id ∧ row.name = "mood" ∧
      ∃ entries, statuses new.id after = .ok (entries, after) ∧
        ("own-note", .unmodified) ∈ entries) ∧
    createPack " " none none neglected = .error (.refused (.violation .blankPackName)) ∧
    createPack "House" none none neglected = .error (.refused (.nameTaken .pack "House")) := by
  refine ⟨?_, ?_, ?_⟩
  · obtain ⟨hiff, -, hcopies⟩ := valid_neglected.createPack_copies "Copy" none (some "Ada")
    obtain ⟨new, after, hrun⟩ := hiff.2 (conditionsForPack_iff.2 (by decide +kernel))
    obtain ⟨-, -, default, hmem, hisDefault, hcopy, hstatuses⟩ := hcopies new after hrun
    have hseven : ∀ pack ∈ neglected.packs, pack.isDefault = true → pack.id = 7 := by decide
    rw [hseven default hmem hisDefault] at hcopy hstatuses
    obtain ⟨rows, hrows, -, hsame⟩ := hcopy.variables
    obtain ⟨row, rfl, hrow⟩ : ∃ row, rows = [row] ∧
        row = ⟨row.id, new.id, "mood", "Mood", .text, false, none, none, none, 0⟩ := by
      cases hsame with
      | cons hfirst hrest =>
        cases hrest
        exact ⟨_, rfl, hfirst⟩
    refine ⟨new, after, row, hrun, ?_, hrows, by rw [hrow], by rw [hrow], _, hstatuses, ?_⟩
    · rw [hcopy.templates]
      exact List.mem_append_right _ (List.mem_map.2 ⟨⟨7, "own-note", "Note.", "unknown"⟩,
        by decide, rfl⟩)
    · exact List.mem_map.2 ⟨⟨7, "own-note", "Note.", "unknown"⟩,
        mem_templatesOf.2 ⟨by decide, rfl⟩, rfl⟩
  · obtain ⟨-, herror, -⟩ := valid_neglected.createPack_copies " " none none
    exact (herror _).2 ⟨_, rfl, .here (by decide)⟩
  · obtain ⟨-, herror, -⟩ := valid_neglected.createPack_copies "House" none none
    exact (herror _).2 ⟨_, rfl, .later (by decide) (.later (by decide) (.later (by decide)
      (.later (by decide) (.here (by decide)))))⟩

end Tables

end PromptPacks
