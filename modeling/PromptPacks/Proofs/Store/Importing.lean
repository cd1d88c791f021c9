import PromptPacks.Proofs.Digest.Content
import PromptPacks.Proofs.Store.Copies

namespace PromptPacks

open PromptPacks.Digest PromptPacks.Store PromptPacks.Template PromptPacks.Text
  PromptPacks.Transaction

namespace Envelope

/-- What an envelope has to keep to, and its templates with it. The text of an
    external template may be anything. -/
structure IsAcceptable (registry : Registry) (envelope : Envelope) : Prop where
  version : envelope.version = formatVersion
  name : isBlankText envelope.name = false ∧ envelope.name.length ≤ maxPackName
  templateIds : ∀ template ∈ envelope.templates, isBlankText template.templateId = false
  nodup_templateIds : (envelope.templates.map (·.templateId)).Nodup
  custom : ∀ exported ∈ envelope.variables, exported.definition.category = .custom
  definitions : ∀ exported ∈ envelope.variables, exported.definition.check = .ok ()
  nodup_names : (envelope.variables.map (·.definition.name)).Nodup
  templates : ∀ template ∈ envelope.templates,
    ShippedTemplate.isExternalId template.templateId = false →
      validate registry (envelope.variables.map (·.definition.name) ++
        ShippedTemplate.runtimeVariablesOf template.templateId) template.content = []

/-- The rules for an envelope, each said by itself, are what all the checks of
    an import come to. -/
theorem isAcceptable_iff {registry : Registry} {envelope : Envelope} :
    envelope.IsAcceptable registry ↔ envelope.check = .ok () ∧
      ∀ template ∈ envelope.templates, AcceptsTemplate registry
        (envelope.variables.map (·.definition.name)) template.templateId template.content := by
  rw [check_eq_ok, checkPackName_eq_ok, checkTemplates_eq_ok, checkVariables_eq_ok]
  simp only [acceptsTemplate_iff]
  constructor
  · intro hacceptable
    refine ⟨⟨hacceptable.version, hacceptable.name, ⟨hacceptable.templateIds,
      hacceptable.nodup_templateIds, by simp⟩, fun exported hexported => ?_,
      hacceptable.nodup_names, by simp⟩, hacceptable.templates⟩
    exact ⟨hacceptable.custom exported hexported, hacceptable.definitions exported hexported⟩
  · rintro ⟨⟨hversion, hname, ⟨hids, hdistinct, -⟩, hvariables, hnames, -⟩, htemplates⟩
    exact {
      version := hversion
      name := hname
      templateIds := hids
      nodup_templateIds := hdistinct
      custom := fun exported hexported => (hvariables exported hexported).1
      definitions := fun exported hexported => (hvariables exported hexported).2
      nodup_names := hnames
      templates := htemplates }

/-- The envelope without the hashes of its templates. -/
def withoutHashes (envelope : Envelope) : Envelope :=
  { envelope with templates := envelope.templates.map ({ · with hash := none }) }

/-- The check of the templates does not look at their hashes. -/
theorem checkTemplates_withoutHashes (seen : List String) (templates : List ExportedTemplate) :
    checkTemplates seen (templates.map ({ · with hash := none })) =
      checkTemplates seen templates := by
  induction templates generalizing seen with
  | nil => rfl
  | cons template rest ih => rw [List.map_cons, checkTemplates, checkTemplates, ih]

theorem check_withoutHashes (envelope : Envelope) :
    envelope.withoutHashes.check = envelope.check := by
  rw [check, withoutHashes, checkTemplates_withoutHashes, check]

end Envelope

namespace Store

/-- No step of an import looks at a hash of the envelope. All hashes that are
    stored are computed from the contents. -/
theorem importPack_withoutHashes (registry : Registry) (envelope : Envelope) :
    importPack registry envelope.withoutHashes = importPack registry envelope := by
  rw [importPack, importPack, envelope.check_withoutHashes]
  simp only [Envelope.withoutHashes, List.map_map, Function.comp_def, Transaction.forM_map]

end Store

/-- The variables of an envelope as rows of a pack: nothing of them is lost, as
    they are all custom. -/
theorem PackVariable.forall₂_numbered_placed {packId : Int} {last : Nat}
    {exported : List ExportedVariable}
    (hcustom : ∀ item ∈ exported, item.definition.category = .custom) :
    List.Forall₂ (fun row item => row.packId = packId ∧ row.definition = item.definition ∧
        row.sortOrder = item.sortOrder)
      (numbered packId last (exported.map fun item => (item.definition, item.sortOrder)))
      exported := by
  induction exported generalizing last with
  | nil => exact .nil
  | cons item rest ih =>
    obtain ⟨hitem, hrest⟩ := List.forall_mem_cons.1 hcustom
    have hdefinition : (ofDefinition (last + 1) packId item.definition item.sortOrder).definition =
        item.definition := by
      rw [ofDefinition, definition, ← hitem]
    exact .cons ⟨rfl, hdefinition, rfl⟩ (ih hrest)

namespace Tables

variable {registry : Registry} {tables : Tables} {envelope : Envelope}

/-- The templates of an imported pack: those of the envelope, and those of a
    pack that the envelope lacks. -/
def importedRows (tables : Tables) (envelope : Envelope) (source : Int) : List PackTemplate :=
  envelope.rows source ++ (tables.templatesOf source).filter
    (!(envelope.templates.map (·.templateId)).contains ·.templateId)

/-- The rows of an import are those of the envelope and the missing ones of the
    default pack. -/
theorem map_moved_importedRows (source target : Int) :
    (tables.importedRows envelope source).map (·.moved target) = envelope.rows target ++
      tables.missingRows source (envelope.templates.map (·.templateId)) target := by
  rw [importedRows, List.map_append, missingRows, Envelope.rows, List.map_map, Envelope.rows]
  rfl

/-- The templates of an import have distinct identifiers: those of the envelope
    are, and what the default pack adds are others. -/
theorem Valid.nodup_importedRows (hvalid : tables.Valid)
    (hids : (envelope.templates.map (·.templateId)).Nodup) (source : Int) :
    ((tables.importedRows envelope source).map (·.templateId)).Nodup := by
  have hrows : (envelope.rows source).map (·.templateId) =
      envelope.templates.map (·.templateId) := by
    rw [Envelope.rows, List.map_map]
    rfl
  rw [importedRows, List.map_append, hrows]
  refine List.Nodup.append hids (Rows.nodup_map_filter (hvalid.nodup_templateIds source) _) ?_
  intro id hid hmissing
  obtain ⟨row, hrow, rfl⟩ := List.mem_map.1 hmissing
  have hlacks := (List.mem_filter.1 hrow).2
  exact absurd hid (by simpa using hlacks)

/-- The tables after the import of an envelope: a new pack under the first free
    name has the templates of the envelope with hashes of their own, those of
    the default pack that the envelope lacks, and the variables of the envelope.
    All other rows are as before. -/
structure HoldsImport (tables : Tables) (envelope : Envelope) (new : Pack) (after : Tables) :
    Prop where
  isNew : ¬tables.HasPack new.id
  isDefault : new.isDefault = false
  name : IsFirstFree envelope.name tables.packNames new.name
  description : new.description = envelope.description
  author : new.author = envelope.author
  packs : after.packs = tables.packs ++ [new]
  templates : ∃ default ∈ tables.packs, default.isDefault = true ∧
    after.templates = tables.templates ++ (envelope.rows new.id ++
      tables.missingRows default.id (envelope.templates.map (·.templateId)) new.id)
  nodup_templateIds : ((after.templatesOf new.id).map (·.templateId)).Nodup
  «variables» : ∃ rows, after.variables = tables.variables ++ rows ∧
    List.Forall₂ (fun row exported => row.packId = new.id ∧
      row.definition = exported.definition ∧ row.sortOrder = exported.sortOrder) rows
      envelope.variables
  stories : after.stories = tables.stories

/-- After an import the tables hold the new pack, with the templates and
    variables that the envelope tells and with all old rows as they were. -/
theorem Valid.holdsImport (hvalid : tables.Valid) {new : Pack} {after : Tables}
    (hrun : importPack registry envelope tables = .ok (new, after)) :
    tables.HoldsImport envelope new after := by
  obtain ⟨hcheck, -, default, hdefault, hnew, heq, hafter⟩ :=
    (importPack_spec hvalid registry envelope).of_ok hrun
  have hid : new.id = tables.lastPack + 1 := by rw [hnew]
  have hids := (Envelope.checkTemplates_eq_ok.1 (Envelope.check_eq_ok.1 hcheck).2.2.1).2.1
  have hcustom := (Envelope.checkVariables_eq_ok.1 (Envelope.check_eq_ok.1 hcheck).2.2.2).1
  obtain ⟨hmem, hisDefault⟩ := defaultPack?_eq_some hdefault
  rw [hid, ← putAll_append, ← map_moved_importedRows] at heq
  exact {
    isNew := hid ▸ hvalid.not_hasPack_next
    isDefault := by rw [hnew]
    name := by rw [hnew]; exact isFirstFree_uniqueName
    description := by rw [hnew]
    author := by rw [hnew]
    packs := by rw [heq, Tables.addVariables, packs_putAll, Tables.addPack, hnew]
    templates := by
      refine ⟨default, hmem, hisDefault, ?_⟩
      rw [heq, hid, ← map_moved_importedRows]
      exact hvalid.templates_putAll_next (hvalid.nodup_importedRows hids default.id)
    nodup_templateIds := hafter.nodup_templateIds new.id
    «variables» := by
      refine ⟨PackVariable.numbered new.id tables.lastVariable envelope.placed, ?_, ?_⟩
      · rw [heq, Tables.addVariables, variables_putAll, lastVariable_putAll, hid]
        rfl
      · exact PackVariable.forall₂_numbered_placed fun item hitem => (hcustom item hitem).1
    stories := by
      rw [heq, Tables.addVariables, stories_putAll]
      rfl }

end Tables

namespace Reachable

variable {registry : Registry} {tables : Tables}

/-- Where there is a default pack, an import succeeds exactly for the envelopes
    that keep to the rules. What it does depends on no hash of the envelope. -/
theorem importPack_iff_isAcceptable (hreachable : Reachable registry tables)
    (envelope : Envelope) :
    ((∃ new after, importPack registry envelope tables = .ok (new, after)) ↔
      envelope.IsAcceptable registry ∧ ∃ default ∈ tables.packs, default.isDefault = true) ∧
    (∀ other : Envelope, other.withoutHashes = envelope.withoutHashes →
      importPack registry other tables = importPack registry envelope tables) ∧
    ∀ new after, importPack registry envelope tables = .ok (new, after) →
      tables.HoldsImport envelope new after := by
  have hvalid := hreachable.valid
  refine ⟨?_, fun other hsame => ?_, fun new after => hvalid.holdsImport⟩
  · rw [importPack_eq_ok_iff hvalid, Envelope.isAcceptable_iff, and_assoc]
    refine and_congr_right fun _ => and_congr_right fun _ => ?_
    constructor
    · rintro ⟨default, hdefault⟩
      exact ⟨default, Tables.defaultPack?_eq_some hdefault⟩
    · rintro ⟨default, hmem, hisDefault⟩
      exact ⟨default, hvalid.defaultPack?_of_mem hmem hisDefault⟩
  · rw [← importPack_withoutHashes, hsame, importPack_withoutHashes]

/-- An envelope with a hash that is not that of its template, and with a name
    that is in use. -/
def forged : Envelope where
  version := formatVersion
  name := "Custom"
  description := none
  author := some "Ada"
  templates := [⟨"story-turn", "Be \x7b\x7b mood \x7d\x7d.", some "stale"⟩]
  «variables» := [⟨mood, 3⟩]

/-- An envelope whose hashes are all wrong is acceptable. -/
theorem isAcceptable_forged : forged.IsAcceptable .empty := by
  constructor <;> decide +kernel

/-- The import gives the pack another name and the template a hash of its own.
    Without the forged hash it would do the same. -/
theorem importPack_forged : ∃ new after, importPack .empty forged sample = .ok (new, after) ∧
    importPack .empty forged.withoutHashes sample = .ok (new, after) ∧
    new.name ≠ "Custom" ∧
    ∃ row ∈ after.templates, row.packId = new.id ∧ row.templateId = "story-turn" ∧
      row.hash ≠ "stale" := by
  obtain ⟨hiff, hhashes, himport⟩ := reachable_sample.importPack_iff_isAcceptable forged
  have hdefault : ∃ default ∈ sample.packs, default.isDefault = true := by decide +kernel
  obtain ⟨new, after, hrun⟩ := hiff.2 ⟨isAcceptable_forged, hdefault⟩
  have hholds := himport new after hrun
  have htaken : "Custom" ∈ sample.packNames :=
    Tables.mem_packNames.2 (by decide +kernel : ∃ pack ∈ sample.packs, pack.name = "Custom")
  obtain ⟨default, -, -, htemplates⟩ := hholds.templates
  refine ⟨new, after, hrun, (hhashes _ rfl).trans hrun, ?_, ?_⟩
  · intro hname
    exact hholds.name.1 (hname ▸ htaken)
  · refine ⟨_, htemplates ▸ List.mem_append_right _ List.mem_cons_self, rfl, rfl, ?_⟩
    exact contentHash_ne_of_odd _ (by decide)

end Reachable

end PromptPacks
