import PromptPacks.Proofs.Store.Guards
import PromptPacks.Proofs.Store.TemplateRows

namespace PromptPacks

/-- The templates of one pack that differ from those of another one, by their
    hashes. -/
def Tables.differing (tables : Tables) (baseline packId : Int) : List PackTemplate :=
  (tables.templatesOf baseline).filter fun row =>
    (tables.template? packId row.templateId).map (·.hash) != some row.hash

/-- What differs is a template of the pack that is compared with. -/
theorem Tables.mem_differing {tables : Tables} {baseline packId : Int} {row : PackTemplate}
    (hrow : row ∈ tables.differing baseline packId) :
    row ∈ tables.templates ∧ row.packId = baseline :=
  mem_templatesOf.1 (List.mem_filter.1 hrow).1

namespace Store

open Transaction PromptPacks.Digest PromptPacks.Text

variable {tables : Tables}

/-- New content for a template is kept as it is given, with its hash. It is
    accepted only for a pack that is open to changes. -/
theorem setTemplate_spec (hvalid : tables.Valid) (registry : Registry) (packId : Int)
    (templateId content : String) :
    (setTemplate registry packId templateId content).Outcome tables (· ≠ .storage)
      fun row after => ∃ pack, tables.pack? packId = some pack ∧ pack.isDefault = false ∧
        isBlankText templateId = false ∧
        AcceptsTemplate registry ((tables.variablesOf packId).map (·.name)) templateId content ∧
        row = ⟨packId, templateId, content, contentHash content⟩ ∧
        after = tables.put row ∧ after.Valid := by
  rw [setTemplate, outcome_ite]
  refine ⟨by simp, fun hblank => ?_⟩
  simp only [acceptFor_eq, outcome_bind, outcome_requireEditable, outcome_ask]
  refine ⟨by simp, fun pack hpack => ⟨by simp, fun hdefault => ?_⟩⟩
  have hhas : tables.HasPack packId := Tables.hasPack_of_pack?_eq_some hpack
  refine outcome_acceptTemplate (by simp) fun haccepts => ?_
  rw [outcome_putTemplate hhas]
  exact ⟨pack, hpack, hdefault, by simpa using hblank, haccepts, rfl, rfl, hvalid.put hhas⟩

/-- A template is reset to the content and the hash that it has in the default
    pack. Whether the pack has had it before does not matter. -/
theorem resetTemplate_spec (hvalid : tables.Valid) (packId : Int) (templateId : String) :
    (resetTemplate packId templateId).Outcome tables (· ≠ .storage) fun row after =>
      ∃ pack, tables.pack? packId = some pack ∧ pack.isDefault = false ∧
        ∃ default baseline, tables.defaultPack? = some default ∧
          tables.template? default.id templateId = some baseline ∧
          row = baseline.moved packId ∧ after = tables.put row ∧ after.Valid := by
  simp only [resetTemplate, outcome_bind, outcome_requireEditable, outcome_requireDefault,
    outcome_demand]
  refine ⟨by simp, fun pack hpack => ⟨by simp, fun hdefault => ⟨by simp, fun default hfound =>
    ⟨by simp, fun baseline hbaseline => ?_⟩⟩⟩⟩
  have hhas : tables.HasPack packId := Tables.hasPack_of_pack?_eq_some hpack
  obtain ⟨-, -, hid⟩ := Tables.template?_eq_some hbaseline
  rw [outcome_putTemplate hhas]
  exact ⟨pack, hpack, hdefault, default, baseline, hfound, hbaseline, by rw [← hid]; rfl, rfl,
    hvalid.put hhas⟩

/-- All templates that differ from those of the default pack are reset, and no
    others. Templates that only the pack has stay. -/
theorem resetAll_spec (hvalid : tables.Valid) (packId : Int) :
    (resetAll packId).Outcome tables (· ≠ .storage) fun count after =>
      ∃ pack, tables.pack? packId = some pack ∧ pack.isDefault = false ∧
        ∃ default, tables.defaultPack? = some default ∧
          count = (tables.differing default.id packId).length ∧
          after = tables.putAll ((tables.differing default.id packId).map (·.moved packId)) ∧
          after.Valid := by
  simp only [resetAll, outcome_bind, outcome_requireEditable, outcome_requireDefault,
    outcome_ask, outcome_get]
  refine ⟨by simp, fun pack hpack => ⟨by simp, fun hdefault =>
    ⟨by simp, fun default hfound => ?_⟩⟩⟩
  have hhas : tables.HasPack packId := Tables.hasPack_of_pack?_eq_some hpack
  rw [outcome_forM_moved hhas, outcome_pure]
  exact ⟨pack, hpack, hdefault, default, hfound, rfl, rfl,
    hvalid.putAll (Tables.hasPack_of_mem_moved hhas)⟩

section

variable {packId : Int} {templateId : String} {pack default : Pack}
  (hpack : tables.pack? packId = some pack) (heditable : pack.isDefault = false)
  (hdefault : tables.defaultPack? = some default)

include hpack heditable hdefault

/-- Where the default pack has a template, a reset puts it. -/
theorem resetTemplate_eq_ok {baseline : PackTemplate}
    (hbaseline : tables.template? default.id templateId = some baseline) :
    resetTemplate packId templateId tables =
      .ok (baseline.moved packId, tables.put (baseline.moved packId)) := by
  obtain ⟨-, -, rfl⟩ := Tables.template?_eq_some hbaseline
  apply Outcome.eq_ok
  rw [resetTemplate, outcome_bind, outcome_requireEditable_of_pack? hpack heditable, outcome_bind,
    outcome_requireDefault_of_defaultPack? hdefault, outcome_bind, outcome_demand, hbaseline]
  refine ⟨by simp, fun found hfound => ?_⟩
  obtain rfl := Option.some.inj hfound
  rw [outcome_putTemplate (Tables.hasPack_of_pack?_eq_some hpack)]
  exact ⟨rfl, rfl⟩

/-- Where the default pack does not have it, a reset is turned down and changes
    nothing. -/
theorem resetTemplate_eq_error (hnone : tables.template? default.id templateId = none) :
    resetTemplate packId templateId tables = .error (.refused (.nothingToReset templateId)) := by
  apply Outcome.eq_error
  rw [resetTemplate, outcome_bind, outcome_requireEditable_of_pack? hpack heditable, outcome_bind,
    outcome_requireDefault_of_defaultPack? hdefault, outcome_bind, outcome_demand, hnone]
  simp

/-- A reset of all templates cannot fail in a custom pack. -/
theorem resetAll_eq_ok :
    resetAll packId tables = .ok ((tables.differing default.id packId).length,
      tables.putAll ((tables.differing default.id packId).map (·.moved packId))) := by
  apply Outcome.eq_ok
  rw [resetAll, outcome_bind, outcome_requireEditable_of_pack? hpack heditable, outcome_bind,
    outcome_requireDefault_of_defaultPack? hdefault, outcome_bind, outcome_ask, outcome_bind,
    outcome_get, outcome_bind, outcome_forM_moved (Tables.hasPack_of_pack?_eq_some hpack)]
  exact ⟨rfl, rfl⟩

/-- The statuses of a custom pack come from the hashes of its templates and of
    those of the default pack. -/
theorem statuses_eq_ok :
    statuses packId tables = .ok ((tables.templatesOf packId).map fun row => (row.templateId,
      .ofHashes row.hash ((tables.template? default.id row.templateId).map (·.hash))), tables) := by
  apply Outcome.eq_ok
  rw [statuses, outcome_bind, outcome_requirePack, hpack]
  refine ⟨by simp, fun found hfound => ?_⟩
  obtain rfl := Option.some.inj hfound
  rw [outcome_bind, outcome_ask, if_neg (by simp [heditable]), outcome_bind,
    outcome_requireDefault_of_defaultPack? hdefault]
  exact ⟨rfl, rfl⟩

end

end Store

end PromptPacks
