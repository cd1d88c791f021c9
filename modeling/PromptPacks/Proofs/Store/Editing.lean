import PromptPacks.Proofs.Store.Effects
import PromptPacks.Proofs.Store.Export
import PromptPacks.Proofs.Template.Problems

namespace PromptPacks

open PromptPacks.Digest PromptPacks.Store PromptPacks.Template PromptPacks.Text
  PromptPacks.Transaction

namespace Tables

variable {registry : Registry} {tables : Tables} {row : PackTemplate} {packId : Int}
  {templateId content : String}

/-- Whether a template of a pack may read a name: a registry has it, a variable
    of this pack is called so, or it is given for the rendering of just this
    template. -/
def Knows (tables : Tables) (registry : Registry) (packId : Int) (templateId name : String) :
    Prop :=
  registry.has name = true ∨ (∃ row ∈ tables.variables, row.packId = packId ∧ row.name = name) ∨
    name ∈ ShippedTemplate.runtimeVariablesOf templateId

instance (tables : Tables) (registry : Registry) (packId : Int) (templateId name : String) :
    Decidable (tables.Knows registry packId templateId name) :=
  inferInstanceAs (Decidable (_ ∨ (∃ row ∈ tables.variables, _ ∧ _) ∨ _))

/-- The names that the check of a template allows are those that are known where
    it is edited: of the registry, of the pack and of the template's own runtime
    values. -/
theorem isAllowed_iff_knows {name : String} :
    IsAllowed registry ((tables.variablesOf packId).map (·.name) ++
      ShippedTemplate.runtimeVariablesOf templateId) name ↔
        tables.Knows registry packId templateId name := by
  simp only [IsAllowed, Knows, List.mem_append, List.mem_map, mem_variablesOf, and_assoc]

/-- What an edit of a template has to keep to. The text of an external template
    may be anything. -/
structure Admits (tables : Tables) (registry : Registry) (packId : Int)
    (templateId content : String) : Prop where
  isNamed : isBlankText templateId = false
  isEditable : ∃ pack ∈ tables.packs, pack.id = packId ∧ pack.isDefault = false
  isValid : ShippedTemplate.isExternalId templateId = false →
    validate registry ((tables.variablesOf packId).map (·.name) ++
      ShippedTemplate.runtimeVariablesOf templateId) content = []

/-- What an edit does to the tables: a template stands once under its key, and
    all else is as it was. -/
structure IsEdit (tables : Tables) (row : PackTemplate) (after : Tables) : Prop where
  once : after.templates.filter (·.key = row.key) = [row]
  others : after.templates.filter (·.key ≠ row.key) = tables.templates.filter (·.key ≠ row.key)
  packs : after.packs = tables.packs
  «variables» : after.variables = tables.variables
  stories : after.stories = tables.stories

/-- Putting a template changes one row or adds one, and nothing else. -/
theorem Valid.isEdit_put (hvalid : tables.Valid) (hpack : tables.HasPack row.packId) :
    tables.IsEdit row (tables.put row) where
  once := Rows.filter_key_eq_singleton (hvalid.put hpack).templateKeys
    (mem_templates_put.2 (.inl rfl))
  others := filter_put fun other hkey => by simpa using hkey
  packs := rfl
  «variables» := rfl
  stories := rfl

end Tables

namespace Store

variable {registry : Registry} {tables : Tables} {packId : Int} {templateId content : String}

/-- An edit that is admitted puts the template with its hash, and nothing else
    happens. No constraint can stop it. -/
theorem setTemplate_eq_ok (hvalid : tables.Valid)
    (hadmits : tables.Admits registry packId templateId content) :
    setTemplate registry packId templateId content tables =
      .ok (⟨packId, templateId, content, contentHash content⟩,
        tables.put ⟨packId, templateId, content, contentHash content⟩) := by
  obtain ⟨hnamed, heditable, hcontent⟩ := hadmits
  obtain ⟨pack, hpack, hdefault⟩ := hvalid.exists_pack_iff.1 heditable
  apply Outcome.eq_ok
  rw [setTemplate, if_neg (by simp [hnamed]), outcome_bind,
    outcome_requireEditable_of_pack? hpack hdefault, acceptFor_eq, outcome_bind, outcome_bind,
    outcome_ask, outcome_acceptTemplate_of_accepts (acceptsTemplate_iff.2 hcontent),
    outcome_putTemplate (Tables.hasPack_of_pack?_eq_some hpack)]
  exact ⟨rfl, rfl⟩

/-- An edit that succeeds was admitted: the conditions are read back from the
    success. -/
theorem admits_of_setTemplate_eq_ok (hvalid : tables.Valid) {row : PackTemplate} {after : Tables}
    (hrun : setTemplate registry packId templateId content tables = .ok (row, after)) :
    tables.Admits registry packId templateId content := by
  obtain ⟨pack, hpack, hdefault, hnamed, haccepts, -⟩ :=
    (setTemplate_spec hvalid registry packId templateId content).of_ok hrun
  exact {
    isNamed := hnamed
    isEditable := hvalid.exists_pack_iff.2 ⟨pack, hpack, hdefault⟩
    isValid := acceptsTemplate_iff.1 haccepts }

end Store

namespace Reachable

variable {registry : Registry} {tables : Tables}

/-- An edit of a template succeeds exactly if it is admitted. The content is
    kept as it is, with its hash, and only the template that is looked up
    afterwards is another one. A text that can be rendered is valid exactly if
    the strict check accepts it and the names that it reads are known: those of
    other packs and those given for other templates do not count. -/
theorem setTemplate_iff_admits (hreachable : Reachable registry tables) (packId : Int)
    (templateId content : String) :
    ((∃ row after, setTemplate registry packId templateId content tables = .ok (row, after)) ↔
      tables.Admits registry packId templateId content) ∧
    (∀ row after, setTemplate registry packId templateId content tables = .ok (row, after) →
      row = ⟨packId, templateId, content, contentHash content⟩ ∧ tables.IsEdit row after ∧
        (Request.template packId templateId).run registry after = .ok (some row, after)) ∧
    (validate registry ((tables.variablesOf packId).map (·.name) ++
        ShippedTemplate.runtimeVariablesOf templateId) content = [] ↔
      ∃ references, check content = .ok references ∧
        ∀ name ∈ references.variables, tables.Knows registry packId templateId name) := by
  have hvalid := hreachable.valid
  refine ⟨⟨?_, fun hadmits => ⟨_, _, setTemplate_eq_ok hvalid hadmits⟩⟩, ?_, ?_⟩
  · rintro ⟨row, after, hrun⟩
    exact admits_of_setTemplate_eq_ok hvalid hrun
  · intro row after hrun
    have hadmits := admits_of_setTemplate_eq_ok hvalid hrun
    obtain ⟨pack, hpack, hid, -⟩ := hadmits.isEditable
    cases (setTemplate_eq_ok hvalid hadmits).symm.trans hrun
    refine ⟨rfl, hvalid.isEdit_put ⟨pack, hpack, hid⟩, ?_⟩
    have hafter : (tables.put ⟨packId, templateId, content, contentHash content⟩).Valid :=
      hvalid.put ⟨pack, hpack, hid⟩
    have hfound := hafter.template?_of_mem (Tables.mem_templates_put.2 (.inl rfl))
    exact congrArg (fun found => Except.ok (found, _)) hfound
  · simp only [validate_eq_nil_iff_check, Tables.isAllowed_iff_knows]

/-- A prompt may read the variable of its pack and what is given for its own
    rendering, but not what is given for that of another template. -/
theorem setTemplate_iff_admits_sample :
    (∃ row after, setTemplate .empty 2 "story-turn"
        "\x7b\x7b weather | upper \x7d\x7d: \x7b\x7b userAction \x7d\x7d" sample =
          .ok (row, after) ∧
      row.content = "\x7b\x7b weather | upper \x7d\x7d: \x7b\x7b userAction \x7d\x7d" ∧
      (Request.template 2 "story-turn").run .empty after = .ok (some row, after)) ∧
    ¬∃ row after, setTemplate .empty 2 "story-turn" "\x7b\x7b chapterText \x7d\x7d" sample =
      .ok (row, after) := by
  have heditable : ∃ pack ∈ sample.packs, pack.id = 2 ∧ pack.isDefault = false := by
    decide +kernel
  constructor
  · obtain ⟨hiff, hedit, -⟩ := reachable_sample.setTemplate_iff_admits 2 "story-turn"
      "\x7b\x7b weather | upper \x7d\x7d: \x7b\x7b userAction \x7d\x7d"
    obtain ⟨row, after, hrun⟩ := hiff.2 ⟨by decide +kernel, heditable, fun _ => by decide +kernel⟩
    obtain ⟨hrow, -, hfound⟩ := hedit row after hrun
    exact ⟨row, after, hrun, by rw [hrow], hfound⟩
  · obtain ⟨hiff, -⟩ := reachable_sample.setTemplate_iff_admits 2 "story-turn"
      "\x7b\x7b chapterText \x7d\x7d"
    intro hrun
    exact absurd ((hiff.1 hrun).isValid (by decide +kernel)) (by decide +kernel)

end Reachable

end PromptPacks
