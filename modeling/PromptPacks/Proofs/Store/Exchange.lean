import PromptPacks.Proofs.Pack.Acceptance
import PromptPacks.Proofs.Pack.Naming
import PromptPacks.Proofs.Store.Packs
import PromptPacks.Store.Exchange

namespace PromptPacks

open PromptPacks.Digest

/-- The templates of an exported pack as rows of a pack, with hashes of their
    own. -/
def Envelope.rows (envelope : Envelope) (packId : Int) : List PackTemplate :=
  envelope.templates.map fun template =>
    ⟨packId, template.templateId, template.content, contentHash template.content⟩

/-- The templates of a pack that are not among given ones, as rows of another
    pack. -/
def Tables.missingRows (tables : Tables) (source : Int) (given : List String) (target : Int) :
    List PackTemplate :=
  ((tables.templatesOf source).filter (!given.contains ·.templateId)).map (·.moved target)

/-- The variables of an exported pack with their places. -/
def Envelope.placed (envelope : Envelope) : List (VariableDefinition × Int) :=
  envelope.variables.map fun exported => (exported.definition, exported.sortOrder)

/-- A name that is made to be free among the names of all packs belongs to none.
    So a pack with this name can be added. -/
theorem Tables.packNamed?_uniqueName {tables : Tables} {name : String} :
    tables.packNamed? (uniqueName name tables.packNames) = none := by
  rw [packNamed?_eq_none]
  intro pack hpack heq
  exact uniqueName_not_mem (mem_packNames.2 ⟨pack, hpack, heq⟩)

/-- A name that no pack has stays as it is. -/
theorem Tables.uniqueName_of_free {tables : Tables} {name : String}
    (hfree : tables.packNamed? name = none) : uniqueName name tables.packNames = name := by
  have hunused : name ∉ tables.packNames := by
    intro hmem
    obtain ⟨pack, hpack, hname⟩ := mem_packNames.1 hmem
    exact packNamed?_eq_none.1 hfree pack hpack hname
  rw [uniqueName, if_neg (by simpa using hunused)]

namespace Store

open Transaction PromptPacks.Digest

variable {tables : Tables} {failure : StoreFailure → Prop} {envelope : Envelope}

/-- The templates of an envelope are put one after the other, and each of them
    can be, as the pack exists. -/
theorem outcome_putExported {packId : Int} (hpack : tables.HasPack packId)
    {success : PUnit → Tables → Prop} :
    (envelope.templates.forM fun template => do
        let _ ← putTemplate packId template.templateId template.content
          (contentHash template.content)
        pure ()).Outcome tables failure success ↔
      success () (tables.putAll (envelope.rows packId)) :=
  outcome_forM_putTemplate hpack

/-- The variables of an envelope are added one after the other. The checks of
    the envelope make their names distinct, and the pack is new, so no insertion
    can fail. -/
theorem outcome_addExported {packId : Int} (hpack : tables.HasPack packId)
    (hcheck : envelope.check = .ok ())
    (hfree : ∀ name, tables.variableNamed? packId name = none)
    {success : PUnit → Tables → Prop} :
    (envelope.variables.forM fun exported => do
        let _ ← add (·.insertVariable? packId exported.definition exported.sortOrder)
        pure ()).Outcome tables failure success ↔
      success () (tables.addVariables packId envelope.placed) :=
  outcome_forM_insertVariable? hpack (Envelope.nodup_variableNames hcheck) fun _ _ => hfree _

/-- Whatever the importer accepts, the tables hold: the new pack has the
    templates of the envelope with hashes of their own, what it lacks of the
    default pack, and the variables of the envelope. -/
theorem outcome_importPack {registry : Registry} {default : Pack} (hvalid : tables.Valid)
    (hcheck : envelope.check = .ok ())
    (haccepts : ∀ template ∈ envelope.templates, AcceptsTemplate registry
      (envelope.variables.map (·.definition.name)) template.templateId template.content)
    (hdefault : tables.defaultPack? = some default) {success : Pack → Tables → Prop} :
    (importPack registry envelope).Outcome tables failure success ↔
      success ⟨tables.lastPack + 1, uniqueName envelope.name tables.packNames,
          envelope.description, envelope.author, false⟩
        ((((tables.addPack (uniqueName envelope.name tables.packNames) envelope.description
          envelope.author false).putAll (envelope.rows (tables.lastPack + 1))).putAll
            (tables.missingRows default.id (envelope.templates.map (·.templateId))
              (tables.lastPack + 1))).addVariables (tables.lastPack + 1) envelope.placed) := by
  have hname : tables.packNamed? (uniqueName envelope.name tables.packNames) = none :=
    Tables.packNamed?_uniqueName
  rw [importPack, hcheck, outcome_bind, outcome_accept, outcome_bind,
    outcome_forM_acceptTemplate_of_accepts haccepts, outcome_bind, outcome_requireDefault,
    hdefault]
  simp only [reduceCtorEq, false_implies, implies_true, true_and, forall_const, Option.some.injEq,
    forall_eq']
  rw [outcome_bind, outcome_ask, outcome_bind, outcome_add_insertPack? hname (by simp)]
  obtain ⟨added, hadd⟩ : ∃ added, added = tables.addPack (uniqueName envelope.name
    tables.packNames) envelope.description envelope.author false := ⟨_, rfl⟩
  have hpack : added.HasPack (tables.lastPack + 1) :=
    hadd ▸ Tables.hasPack_addPack.2 (.inr rfl)
  have hmissing : (added.putAll (envelope.rows (tables.lastPack + 1))).templatesOf default.id =
      tables.templatesOf default.id := by
    rw [Tables.templatesOf_putAll, hadd]
    · rfl
    · intro row hrow heq
      obtain ⟨template, -, rfl⟩ := List.mem_map.1 hrow
      exact hvalid.not_hasPack_next ⟨default, (Tables.defaultPack?_eq_some hdefault).1, heq.symm⟩
  have hfree : ∀ name, ((added.putAll (envelope.rows (tables.lastPack + 1))).putAll
      (tables.missingRows default.id (envelope.templates.map (·.templateId))
        (tables.lastPack + 1))).variableNamed? (tables.lastPack + 1) name = none := by
    intro name
    rw [Tables.variableNamed?, Tables.variables_putAll, Tables.variables_putAll, hadd]
    exact hvalid.variableNamed?_next
  rw [← hadd, outcome_bind, outcome_putExported hpack, outcome_bind, outcome_ask, hmissing,
    outcome_bind, outcome_forM_moved ((Tables.hasPack_putAll _).2 hpack), outcome_bind]
  exact outcome_addExported (by simpa using hpack) hcheck hfree

/-- The tables after an import keep all constraints. The pack has a free name,
    its variables have different ones by the check, and templates are put and so
    cannot collide. -/
theorem valid_imported {default : Pack} (hvalid : tables.Valid) (hcheck : envelope.check = .ok ()) :
    ((((tables.addPack (uniqueName envelope.name tables.packNames) envelope.description
      envelope.author false).putAll (envelope.rows (tables.lastPack + 1))).putAll
        (tables.missingRows default.id (envelope.templates.map (·.templateId))
          (tables.lastPack + 1))).addVariables (tables.lastPack + 1) envelope.placed).Valid := by
  have hpack := (@Tables.hasPack_addPack tables (tables.lastPack + 1) (uniqueName envelope.name
    tables.packNames) envelope.description envelope.author false).2 (.inr rfl)
  refine Tables.Valid.addVariables (Tables.Valid.putAll (Tables.Valid.putAll
    (hvalid.addPack Tables.packNamed?_uniqueName (by simp)) fun row hrow => ?_) fun row hrow => ?_)
    (by simpa using hpack) ?_ fun item _ => ?_
  · obtain ⟨template, -, rfl⟩ := List.mem_map.1 hrow
    exact hpack
  · exact Tables.hasPack_of_mem_moved ((Tables.hasPack_putAll _).2 hpack) row hrow
  · rw [Envelope.placed, List.map_map]
    exact Envelope.nodup_variableNames hcheck
  · rw [Tables.variableNamed?, Tables.variables_putAll, Tables.variables_putAll]
    exact hvalid.variableNamed?_next

/-- An import that fails is turned down by a rule or for a template, never by
    the tables. If it succeeds, all its checks have passed, and the tables are
    known exactly. -/
theorem importPack_spec (hvalid : tables.Valid) (registry : Registry) (envelope : Envelope) :
    (importPack registry envelope).Outcome tables (· ≠ .storage) fun pack after =>
      envelope.check = .ok () ∧
        (∀ template ∈ envelope.templates, AcceptsTemplate registry
          (envelope.variables.map (·.definition.name)) template.templateId template.content) ∧
        ∃ default, tables.defaultPack? = some default ∧
          pack = ⟨tables.lastPack + 1, uniqueName envelope.name tables.packNames,
            envelope.description, envelope.author, false⟩ ∧
          after = (((tables.addPack pack.name pack.description pack.author false).putAll
            (envelope.rows pack.id)).putAll (tables.missingRows default.id
              (envelope.templates.map (·.templateId)) pack.id)).addVariables pack.id
                envelope.placed ∧
          after.Valid := by
  by_cases hall : envelope.check = .ok () ∧ (∀ template ∈ envelope.templates, AcceptsTemplate
    registry (envelope.variables.map (·.definition.name)) template.templateId template.content) ∧
      ∃ default, tables.defaultPack? = some default
  · obtain ⟨hcheck, haccepts, default, hdefault⟩ := hall
    refine (outcome_importPack hvalid hcheck haccepts hdefault).2 ?_
    exact ⟨hcheck, haccepts, default, hdefault, rfl, rfl, valid_imported hvalid hcheck⟩
  · rw [importPack, outcome_bind, outcome_accept]
    refine ⟨by simp, fun hcheck => ?_⟩
    rw [outcome_bind]
    refine outcome_forM_acceptTemplate (by simp) fun haccepts => ?_
    rw [outcome_bind, outcome_requireDefault]
    exact ⟨by simp, fun default hdefault => absurd ⟨hcheck, haccepts, default, hdefault⟩ hall⟩

/-- An import succeeds if the envelope and each of its templates are accepted,
    where there is a default pack. -/
theorem importPack_eq_ok_iff {registry : Registry} (hvalid : tables.Valid) :
    (∃ pack after, importPack registry envelope tables = .ok (pack, after)) ↔
      envelope.check = .ok () ∧
        (∀ template ∈ envelope.templates, AcceptsTemplate registry
          (envelope.variables.map (·.definition.name)) template.templateId template.content) ∧
        ∃ default, tables.defaultPack? = some default := by
  constructor
  · rintro ⟨pack, after, hrun⟩
    obtain ⟨hcheck, haccepts, default, hdefault, -⟩ :=
      (importPack_spec hvalid registry envelope).of_ok hrun
    exact ⟨hcheck, haccepts, default, hdefault⟩
  · rintro ⟨hcheck, haccepts, default, hdefault⟩
    exact ⟨_, _, Outcome.eq_ok ((outcome_importPack hvalid hcheck haccepts hdefault).2 ⟨rfl, rfl⟩)⟩

end Store

end PromptPacks
