import PromptPacks.Proofs.Pack.Document
import PromptPacks.Proofs.Store.Cloning

namespace PromptPacks

open PromptPacks.Digest PromptPacks.Store PromptPacks.Transaction

namespace PackVariable

/-- The order in which variables are shown: by their places, and by age where
    those are equal. -/
def IsShownBefore (a b : PackVariable) : Prop :=
  a.sortOrder < b.sortOrder ∨ a.sortOrder = b.sortOrder ∧ a.id ≤ b.id

/-- Rows for definitions in the order of their places are shown in this order,
    as each of them gets a greater number than those before it. Numbers only
    grow from the last one given, so this holds from any number on. -/
theorem pairwise_numbered {packId : Int} {last : Nat} {items : List (VariableDefinition × Int)}
    (hplaces : items.Pairwise fun a b => a.2 ≤ b.2) :
    (numbered packId last items).Pairwise IsShownBefore := by
  have hbehind : ∀ {items : List (VariableDefinition × Int)} {last : Nat},
      ∀ row ∈ numbered packId last items, (last : Int) < row.id := by
    intro items
    induction items with
    | nil => simp [numbered]
    | cons item rest ih =>
      intro last row hrow
      obtain rfl | hrow := List.mem_cons.1 hrow
      · exact Int.lt_succ _
      · have hlast := ih row hrow
        push_cast at hlast
        omega
  induction items generalizing last with
  | nil => exact .nil
  | cons item rest ih =>
    obtain ⟨hfirst, hrest⟩ := List.pairwise_cons.1 hplaces
    refine List.pairwise_cons.2 ⟨fun row hrow => ?_, ih hrest⟩
    have hnumber : ((last + 1 : Nat) : Int) < row.id := hbehind row hrow
    obtain ⟨other, hother, heq⟩ := mem_numbered hrow
    have hplace : item.2 ≤ row.sortOrder := by
      rw [heq]
      exact hfirst other hother
    obtain hlt | heq := Int.lt_or_eq_of_le hplace
    · exact .inl hlt
    · exact .inr ⟨heq, Int.le_of_lt hnumber⟩

/-- The rows for what other variables pass on are those variables again, up to
    their numbers and their pack. -/
theorem forall₂_numbered (packId : Int) (last : Nat) (rows : List PackVariable) :
    List.Forall₂ (fun new row => new = { row with id := new.id, packId })
      (numbered packId last (rows.map fun row => (row.definition, row.sortOrder))) rows := by
  induction rows generalizing last with
  | nil => exact .nil
  | cons row rows ih => exact .cons rfl (ih (last + 1))

end PackVariable

namespace Tables

variable {tables : Tables} {packId : Int}

/-- Variables that already stand in display order are listed as they stand. -/
theorem variablesOf_eq_of_pairwise {rows : List PackVariable}
    (hrows : tables.variables.filter (·.packId == packId) = rows)
    (hshown : rows.Pairwise PackVariable.IsShownBefore) : tables.variablesOf packId = rows := by
  rw [variablesOf, hrows]
  refine List.mergeSort_of_pairwise (hshown.imp fun {a b} hbefore => ?_)
  simpa [PackVariable.IsShownBefore] using hbefore

/-- The variables of a pack are listed in display order. -/
theorem pairwise_variablesOf :
    (tables.variablesOf packId).Pairwise PackVariable.IsShownBefore := by
  refine (List.pairwise_mergeSort ?_ ?_ _).imp fun {a b} hbefore => ?_
  · intro a b c hab hbc
    simp at hab hbc ⊢
    omega
  · intro a b
    simp
    omega
  · simpa [PackVariable.IsShownBefore] using hbefore

end Tables

namespace Tables

variable {registry : Registry} {tables : Tables} {pack default : Pack} {target : Int}

/-- The exported variables of a pack are its definitions with their places, in
    display order. -/
theorem placed_exported : (tables.exported pack).placed =
    (tables.variablesOf pack.id).map fun row => (row.definition, row.sortOrder) := by
  rw [Envelope.placed, exported, List.map_map]
  rfl

/-- The hashes that an import computes are those that the templates have. So a
    copied template has the row of the original one, apart from its pack. -/
theorem rows_exported (hsound : tables.Sound registry) :
    (tables.exported pack).rows target = (tables.templatesOf pack.id).map (·.moved target) := by
  rw [Envelope.rows, exported, List.map_map]
  refine List.map_congr_left fun row hrow => ?_
  have hhash := (hsound.templatesOf hrow).hash
  rw [PackTemplate.moved, hhash]
  rfl

/-- The templates of a pack, and those of another one that it lacks. -/
def filledTemplates (tables : Tables) (packId source : Int) : List PackTemplate :=
  tables.templatesOf packId ++ (tables.templatesOf source).filter fun row =>
    row.templateId ∉ (tables.templatesOf packId).map (·.templateId)

/-- The templates of a pack, filled up from the default pack, have distinct
    identifiers. -/
theorem Valid.nodup_filledTemplates (hvalid : tables.Valid) (packId source : Int) :
    ((tables.filledTemplates packId source).map (·.templateId)).Nodup := by
  rw [filledTemplates, List.map_append]
  refine List.Nodup.append (hvalid.nodup_templateIds packId)
    (Rows.nodup_map_filter (hvalid.nodup_templateIds source) _) fun id hid hmissing => ?_
  obtain ⟨row, hrow, rfl⟩ := List.mem_map.1 hmissing
  have hlacks := (List.mem_filter.1 hrow).2
  exact absurd hid (by simpa using hlacks)

/-- Where an import puts the templates of an exported pack, these are all that
    it puts there. The missing ones from the default pack are those that the
    pack itself lacks. -/
theorem putAll_exported (hsound : tables.Sound registry) (start : Tables) :
    (start.putAll ((tables.exported pack).rows target)).putAll
      (tables.missingRows default.id ((tables.exported pack).templates.map (·.templateId)) target) =
        start.putAll ((tables.filledTemplates pack.id default.id).map (·.moved target)) := by
  have hgiven : (tables.exported pack).templates.map (·.templateId) =
      (tables.templatesOf pack.id).map (·.templateId) := by
    rw [exported, List.map_map]
    rfl
  have hmissing : ∀ row : PackTemplate,
      (!((tables.templatesOf pack.id).map (·.templateId)).contains row.templateId) =
        decide (row.templateId ∉ (tables.templatesOf pack.id).map (·.templateId)) := by
    intro row
    rw [decide_not, List.contains_eq_mem]
  rw [rows_exported hsound, missingRows, hgiven, filledTemplates, List.map_append, putAll_append]
  simp only [hmissing]

/-- Templates of a pack that is yet to be added stand behind all others. No old
    row has the identifier of the new pack, so none is replaced. -/
theorem Valid.templates_putAll_next (hvalid : tables.Valid) {rows : List PackTemplate}
    (hids : (rows.map (·.templateId)).Nodup) {name : String} {description author : Option String} :
    ((tables.addPack name description author false).putAll
      (rows.map (·.moved (tables.lastPack + 1)))).templates =
        tables.templates ++ rows.map (·.moved (tables.lastPack + 1)) := by
  have hkeys : ((rows.map (·.moved (tables.lastPack + 1))).map PackTemplate.key).Nodup := by
    refine List.Nodup.of_map Prod.snd ?_
    rw [List.map_map, List.map_map]
    exact hids
  rw [putAll_of_fresh hkeys fun row hrow hmem => ?_]
  · rfl
  · obtain ⟨old, hold, hkey⟩ := List.mem_map.1 hmem
    obtain ⟨other, -, rfl⟩ := List.mem_map.1 hrow
    exact hvalid.template_packId_ne_next hold (congrArg Prod.fst hkey)

/-- Variables of a pack that is yet to be added are all that belong to it, since
    its identifier is a new one. -/
theorem Valid.filter_variables_next (hvalid : tables.Valid) (last : Nat)
    (items : List (VariableDefinition × Int)) :
    (tables.variables ++ PackVariable.numbered (tables.lastPack + 1) last items).filter
      (·.packId == (tables.lastPack + 1 : Int)) =
        PackVariable.numbered (tables.lastPack + 1) last items := by
  refine Rows.filter_append_eq_right (fun row hrow => ?_) fun row hrow => ?_
  · simpa using hvalid.variable_packId_ne_next hrow
  · obtain ⟨item, -, heq⟩ := PackVariable.mem_numbered hrow
    rw [heq]
    simp [PackVariable.ofDefinition]

/-- Variables that are shown in their order and then added to a pack that is yet
    to be added are shown in the same order there. Equal places keep their
    order, as the new numbers grow along it. -/
theorem Valid.variablesOf_next (hvalid : tables.Valid) {after : Tables} {last : Nat}
    {rows : List PackVariable} (hrows : rows.Pairwise PackVariable.IsShownBefore)
    (hafter : after.variables = tables.variables ++ PackVariable.numbered (tables.lastPack + 1) last
      (rows.map fun row => (row.definition, row.sortOrder))) :
    after.variablesOf (tables.lastPack + 1) = PackVariable.numbered (tables.lastPack + 1) last
      (rows.map fun row => (row.definition, row.sortOrder)) := by
  have hplaces : (rows.map fun row => (row.definition, row.sortOrder)).Pairwise
      fun a b => a.2 ≤ b.2 := by
    refine List.pairwise_map.2 (hrows.imp ?_)
    rintro a b (hlt | ⟨hplace, -⟩)
    · exact Int.le_of_lt hlt
    · exact Int.le_of_eq hplace
  refine variablesOf_eq_of_pairwise ?_ (PackVariable.pairwise_numbered hplaces)
  rw [hafter]
  exact hvalid.filter_variables_next _ _

/-- What is exported can be written as a document: all places fit into
    sixty-four bits. -/
theorem Sound.hasBounds_exported (hsound : tables.Sound registry) (pack : Pack) :
    (tables.exported pack).HasBounds := by
  have hversion : formatVersion < 4294967296 := by decide
  refine ⟨hversion, fun exported hexported => ?_⟩
  obtain ⟨row, hrow, rfl⟩ := List.mem_map.1 hexported
  exact hsound.places row (mem_variablesOf.1 hrow).1

end Tables

/-- A pack is a copy of another one, added to some tables: it has the next free
    name, the same texts, the same templates with those of the default pack that
    the other one lacks, and the same variables in the same order. All other
    rows are as before. -/
structure Tables.IsCopy (tables : Tables) (pack new : Pack) (after : Tables) : Prop where
  isNew : ¬tables.HasPack new.id
  isDefault : new.isDefault = false
  name : IsFirstFree pack.name tables.packNames new.name
  description : new.description = pack.description
  author : new.author = pack.author
  packs : after.packs = tables.packs ++ [new]
  templates : ∃ default, tables.defaultPack? = some default ∧ after.templates =
    tables.templates ++ (tables.filledTemplates pack.id default.id).map (·.moved new.id)
  «variables» : ∃ rows, after.variables = tables.variables ++ rows ∧
    Store.variables new.id after = .ok (rows, after) ∧
    List.Forall₂ (fun row old => row = { old with id := row.id, packId := new.id }) rows
      (tables.variablesOf pack.id)
  stories : after.stories = tables.stories

namespace Reachable

variable {registry : Registry} {tables : Tables} {pack : Pack}

/-- An export survives the way into a text and back, and whatever an import
    makes of it is a copy of the pack. -/
theorem isCopy_of_importPack (hreachable : Reachable registry tables) (hpack : pack ∈ tables.packs)
    {exportedAt : String} (hmoment : isTimestamp exportedAt = true) :
    ∃ envelope, exportPack pack.id tables = .ok (envelope, tables) ∧
      (Json.parse? (Json.write (envelope.toDatedJson exportedAt))).bind Envelope.ofDatedJson? =
        some envelope ∧
      ∀ new after, importPack registry envelope tables = .ok (new, after) →
        tables.IsCopy pack new after := by
  have hvalid := hreachable.valid
  have hsound := hreachable.sound
  refine ⟨tables.exported pack, exportPack_eq_ok hvalid hpack,
    Envelope.ofDatedJson?_parse?_write (hsound.hasBounds_exported pack) hmoment,
    fun new after hrun => ?_⟩
  obtain ⟨-, -, default, hdefault, hnew, heq, hafter⟩ :=
    (importPack_spec hvalid registry (tables.exported pack)).of_ok hrun
  have hid : new.id = tables.lastPack + 1 := by rw [hnew]
  rw [hid, Tables.putAll_exported hsound, Tables.placed_exported] at heq
  have hpacks : after.packs = tables.packs ++ [new] := by
    rw [heq, Tables.addVariables, Tables.packs_putAll, Tables.addPack, hnew]
  have hvariables : after.variables = tables.variables ++ PackVariable.numbered
      (tables.lastPack + 1) tables.lastVariable
        ((tables.variablesOf pack.id).map fun row => (row.definition, row.sortOrder)) := by
    rw [heq, Tables.addVariables, Tables.variables_putAll, Tables.lastVariable_putAll]
    rfl
  have hshown := hvalid.variablesOf_next Tables.pairwise_variablesOf hvariables
  exact {
    isNew := hid ▸ hvalid.not_hasPack_next
    isDefault := by rw [hnew]
    name := by rw [hnew]; exact isFirstFree_uniqueName
    description := by rw [hnew]; rfl
    author := by rw [hnew]; rfl
    packs := hpacks
    templates := by
      refine ⟨default, hdefault, ?_⟩
      rw [heq, hid]
      exact hvalid.templates_putAll_next (hvalid.nodup_filledTemplates pack.id default.id)
    «variables» := by
      refine ⟨_, hvariables, ?_, hid ▸ PackVariable.forall₂_numbered _ _ _⟩
      have hnewpack : new ∈ after.packs := by
        rw [hpacks]
        exact List.mem_append_right _ (List.mem_singleton_self new)
      rw [← hshown, ← hid]
      exact variables_eq_ok hafter hnewpack
    stories := by
      rw [heq, Tables.addVariables, Tables.stories_putAll]
      rfl }

/-- The custom pack is exported, written, read and imported, and the new pack is
    a copy of it. -/
theorem isCopy_moodySample : ∃ envelope new after,
    exportPack 2 moodySample = .ok (envelope, moodySample) ∧
      (Json.parse? (Json.write (envelope.toDatedJson "2026-01-01T00:00:00Z"))).bind
        Envelope.ofDatedJson? = some envelope ∧
      importPack .system envelope moodySample = .ok (new, after) ∧
      moodySample.IsCopy ⟨2, "Custom", none, none, false⟩ new after := by
  have hmoment : isTimestamp "2026-01-01T00:00:00Z" = true := by decide +kernel
  obtain ⟨envelope, hexport, hread, hcopy⟩ :=
    reachable_moodySample.isCopy_of_importPack mem_packs_moodySample hmoment
  have henvelope : envelope = moodySample.exported ⟨2, "Custom", none, none, false⟩ := by
    rw [exportPack_eq_ok reachable_moodySample.valid mem_packs_moodySample] at hexport
    cases hexport
    rfl
  obtain ⟨new, after, himport⟩ :=
    (reachable_moodySample.importPack_exported_iff mem_packs_moodySample).2 ⟨by decide,
      fun row hrow howner name hneeds =>
        howner ▸ leadsTo_moodySample.declares Registry.hasSystem_system row hrow name hneeds⟩
  rw [← henvelope] at himport
  exact ⟨envelope, new, after, hexport, hread, himport, hcopy new after himport⟩

end Reachable

end PromptPacks
