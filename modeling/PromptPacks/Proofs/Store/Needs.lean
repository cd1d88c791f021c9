import PromptPacks.Proofs.Store.Baseline
import PromptPacks.Proofs.Store.Export
import PromptPacks.Proofs.Template.Acceptance

namespace PromptPacks

open PromptPacks.Digest PromptPacks.Template PromptPacks.Transaction

/-- A registry knows all system variables. -/
def Registry.HasSystem (registry : Registry) : Prop :=
  ∀ definition ∈ systemVariables, registry.has definition.name = true

instance (registry : Registry) : Decidable registry.HasSystem :=
  inferInstanceAs (Decidable (∀ definition ∈ systemVariables, _))

/-- The registry that programs start with knows the variables of the system. -/
theorem Registry.hasSystem_system : Registry.system.HasSystem := by
  decide +kernel

/-- The pack of a template has to have a variable with a name: the template is
    rendered and reads it, and it is neither known to the registry nor given for
    the rendering. -/
structure PackTemplate.Needs (registry : Registry) (row : PackTemplate) (name : String) :
    Prop where
  isRendered : ShippedTemplate.isExternalId row.templateId = false
  isRead : name ∈ variableNames row.content
  isUnknown : registry.has name = false
  isNotGiven : name ∉ ShippedTemplate.runtimeVariablesOf row.templateId

section

variable {registry : Registry} {declared : List String} {row : PackTemplate} {name : String}

/-- What an accepted template needs has been declared. It was accepted with
    these names, and a needed one comes from neither the registry nor the
    runtime. -/
theorem PackTemplate.Needs.mem_of_accepts (hneeds : row.Needs registry name)
    (haccepts : AcceptsTemplate registry declared row.templateId row.content) :
    name ∈ declared := by
  obtain hexternal | hvalidate := haccepts
  · rw [hneeds.isRendered] at hexternal
    cases hexternal
  · obtain hhas | hmem := (validate_eq_nil_iff.1 hvalidate).2 name hneeds.isRead
    · rw [hneeds.isUnknown] at hhas
      cases hhas
    · exact (List.mem_append.1 hmem).resolve_right hneeds.isNotGiven

/-- A stored template that is rendered passes the checks that do not depend on
    any names. -/
theorem PackTemplate.Sound.passes (hrow : row.Sound registry)
    (hrendered : ShippedTemplate.isExternalId row.templateId = false) :
    Passes row.content.toList := by
  obtain ⟨declared, haccepts⟩ | ⟨shipped, hshipped, hid, hcontent⟩ := hrow.source
  · exact passes_of_validate (haccepts.resolve_left (by simp [hrendered]))
  · rw [hcontent]
    exact ShippedTemplate.passes_content hshipped (hid ▸ hrendered)

/-- A template that has once been accepted is accepted again where all names
    that it needs are declared. Its other problems have been ruled out for good,
    since they do not depend on the names. -/
theorem PackTemplate.Sound.accepts_iff (hrow : row.Sound registry) :
    AcceptsTemplate registry declared row.templateId row.content ↔
      ∀ name, row.Needs registry name → name ∈ declared := by
  constructor
  · intro haccepts name hneeds
    exact hneeds.mem_of_accepts haccepts
  · intro hdeclared
    cases hrendered : ShippedTemplate.isExternalId row.templateId with
    | true => exact .inl hrendered
    | false =>
      refine .inr (validate_eq_nil_iff.2 ⟨hrow.passes hrendered, fun name hname => ?_⟩)
      by_cases hgiven : name ∈ ShippedTemplate.runtimeVariablesOf row.templateId
      · exact .inr (List.mem_append_right _ hgiven)
      · cases hhas : registry.has name with
        | true => exact .inl rfl
        | false =>
          have hneeds : row.Needs registry name := ⟨hrendered, hname, hhas, hgiven⟩
          exact .inr (List.mem_append_left _ (hdeclared name hneeds))

/-- A shipped template needs no variable of a pack, as it reads only what the
    system and the runtime give it. -/
theorem ShippedTemplate.not_needs_row (hsystem : registry.HasSystem) {shipped : ShippedTemplate}
    (hshipped : shipped ∈ ShippedTemplate.all) (packId : Int) :
    ¬(shipped.row packId).Needs registry name := by
  intro hneeds
  obtain hmem | hgiven :=
    ShippedTemplate.mem_of_mem_variableNames hshipped hneeds.isRendered hneeds.isRead
  · obtain ⟨definition, hdefinition, rfl⟩ := List.mem_map.1 hmem
    have hhas := hsystem definition hdefinition
    rw [hneeds.isUnknown] at hhas
    cases hhas
  · exact hneeds.isNotGiven hgiven

end

namespace Tables

/-- All names that templates need are those of variables of their packs. -/
def Declares (registry : Registry) (tables : Tables) : Prop :=
  ∀ row ∈ tables.templates, ∀ name, row.Needs registry name →
    (row.packId, name) ∈ tables.variables.map PackVariable.key

/-- A template of the pack of a variable needs its name. -/
def IsNeeded (registry : Registry) (tables : Tables) (row : PackVariable) : Prop :=
  ∃ template ∈ tables.templates, template.packId = row.packId ∧ template.Needs registry row.name

namespace Declares

variable {registry : Registry} {tables : Tables} (hdeclares : tables.Declares registry)
include hdeclares

/-- A new pack without templates needs nothing. -/
theorem addPack {name : String} {description author : Option String} {isDefault : Bool} :
    (tables.addPack name description author isDefault).Declares registry :=
  hdeclares

/-- A template may be put if the pack has all variables that it needs. -/
theorem put {row : PackTemplate} (hrow : ∀ name, row.Needs registry name →
    (row.packId, name) ∈ tables.variables.map PackVariable.key) :
    (tables.put row).Declares registry := by
  intro other hother name hneeds
  obtain rfl | ⟨hother, -⟩ := mem_templates_put.1 hother
  · exact hrow name hneeds
  · exact hdeclares other hother name hneeds

/-- Templates that need nothing may be put anywhere. -/
theorem putAll {rows : List PackTemplate}
    (hrows : ∀ row ∈ rows, ∀ name, ¬row.Needs registry name) :
    (tables.putAll rows).Declares registry := by
  intro row hrow name hneeds
  rw [variables_putAll]
  obtain hrow | hrow := mem_templates_putAll hrow
  · exact absurd hneeds (hrows row hrow name)
  · exact hdeclares row hrow name hneeds

/-- The same where only templates that differ are replaced. -/
theorem refreshAll {rows : List PackTemplate}
    (hrows : ∀ row ∈ rows, ∀ name, ¬row.Needs registry name) :
    (tables.refreshAll rows).Declares registry := by
  intro row hrow name hneeds
  rw [variables_refreshAll]
  obtain hrow | hrow := mem_templates_refreshAll hrow
  · exact absurd hneeds (hrows row hrow name)
  · exact hdeclares row hrow name hneeds

/-- Further variables take no name away. -/
theorem addVariables {packId : Int} {items : List (VariableDefinition × Int)} :
    (tables.addVariables packId items).Declares registry := by
  intro row hrow name hneeds
  rw [Tables.addVariables, List.map_append]
  exact List.mem_append_left _ (hdeclares row hrow name hneeds)

/-- With a pack go the names that its own templates need, and no others.
    Templates of other packs never need them. -/
theorem withoutPack (packId : Int) : (tables.withoutPack packId).Declares registry := by
  intro row hrow name hneeds
  obtain ⟨hrow, hpack⟩ := List.mem_filter.1 hrow
  obtain ⟨other, hother, hkey⟩ := List.mem_map.1 (hdeclares row hrow name hneeds)
  have howner : other.packId = row.packId := congrArg Prod.fst hkey
  rw [← hkey]
  exact List.mem_map_of_mem (List.mem_filter.2 ⟨hother, howner ▸ hpack⟩)

/-- Variables may lose their names where no template needs them. Only the names of
    variables are looked at, so their rows may change in all other respects. -/
theorem of_keys {after : Tables} (htemplates : after.templates = tables.templates)
    (hkeys : ∀ row ∈ tables.variables,
      row.key ∈ after.variables.map PackVariable.key ∨ ¬tables.IsNeeded registry row) :
    after.Declares registry := by
  intro template htemplate name hneeds
  rw [htemplates] at htemplate
  obtain ⟨row, hrow, hkey⟩ := List.mem_map.1 (hdeclares template htemplate name hneeds)
  obtain hmem | hneeded := hkeys row hrow
  · rwa [hkey] at hmem
  · rw [PackVariable.key, Prod.mk.injEq] at hkey
    exact absurd ⟨template, htemplate, hkey.1.symm, hkey.2 ▸ hneeds⟩ hneeded

end Declares

end Tables

namespace Request

/-- A request leaves the names of variables that templates need as they are. -/
def KeepsNames (registry : Registry) ⦃α : Type⦄ (tables : Tables) : Request α → Prop
  | updateVariable _ variableId patch => ∀ row, tables.variableRow? variableId = some row →
    (patch.apply row.definition).name = row.name ∨ ¬tables.IsNeeded registry row
  | deleteVariable _ variableId => ∀ row, tables.variableRow? variableId = some row →
    ¬tables.IsNeeded registry row
  | _ => True

variable {α : Type} {registry : Registry} {tables after : Tables} {request : Request α}

/-- Names that are needed stay declared as long as requests leave them as they
    are. A template that a request puts comes from the default pack, from the
    envelope or from the tables before. -/
theorem Effect.declares (heffect : request.Effect registry tables after)
    (hreachable : Reachable registry tables) (hsystem : registry.HasSystem)
    (hnames : request.KeepsNames registry tables) (hdeclares : tables.Declares registry) :
    after.Declares registry := by
  have hshipped : ∀ {packId : Int}, ∀ row ∈ ShippedTemplate.all.map (·.row packId),
      ∀ name, ¬row.Needs registry name := by
    intro packId row hrow name
    obtain ⟨shipped, hmem, rfl⟩ := List.mem_map.1 hrow
    exact ShippedTemplate.not_needs_row hsystem hmem packId
  have hcopied : ∀ {default : Pack} {row : PackTemplate} {target : Int}, row ∈ tables.templates →
      row.packId = default.id → tables.defaultPack? = some default →
        ∀ name, ¬(row.moved target).Needs registry name := by
    intro default row target hrow hpack hdefault name
    obtain ⟨shipped, hmem, rfl⟩ :=
      (hreachable.isBaseline_of_defaultPack? hdefault).exists_shipped hrow hpack
    exact ShippedTemplate.not_needs_row hsystem hmem target
  have hids := hreachable.valid.variableIds
  cases heffect with
  | unchanged | updatePack | assignPack | setStoryValues => exact hdeclares
  | seed => exact hdeclares.refreshAll hshipped
  | firstSeed => exact hdeclares.addPack.refreshAll hshipped
  | createPack hdefault =>
    refine (hdeclares.addPack.putAll fun row hrow => ?_).addVariables
    obtain ⟨old, hold, hpack, rfl⟩ := Tables.mem_templateCopies hrow
    exact hcopied hold hpack hdefault
  | deletePack => exact hdeclares.withoutPack _
  | setTemplate _ _ _ haccepts =>
    refine hdeclares.put fun name hneeds => ?_
    obtain ⟨row, hrow, hname⟩ := List.mem_map.1 (hneeds.mem_of_accepts haccepts)
    obtain ⟨hmem, hpack⟩ := Tables.mem_variablesOf.1 hrow
    rw [← hname, ← hpack]
    exact List.mem_map_of_mem hmem
  | resetTemplate _ _ hdefault hbaseline =>
    obtain ⟨hmem, hpack, -⟩ := Tables.template?_eq_some hbaseline
    exact hdeclares.put fun name hneeds => absurd hneeds (hcopied hmem hpack hdefault name)
  | resetAll _ _ hdefault =>
    refine hdeclares.putAll fun row hrow => ?_
    obtain ⟨baseline, hbaseline, rfl⟩ := List.mem_map.1 hrow
    obtain ⟨hmem, hpack⟩ := Tables.mem_differing hbaseline
    exact hcopied hmem hpack hdefault
  | createVariable => exact hdeclares.addVariables
  | @updateVariable packId variableId patch pack row _ _ hrow howner =>
    obtain ⟨hmem, -⟩ := Tables.variableRow?_eq_some hrow
    refine hdeclares.of_keys rfl fun other hother => ?_
    by_cases hid : other.id = row.id
    · obtain rfl := List.inj_on_of_nodup_map hids hother hmem hid
      refine (hnames other hrow).imp_left fun hname => ?_
      have hkey : other.key = (packId, (patch.apply other.definition).name) := by
        rw [PackVariable.key, howner, hname]
      rw [hkey]
      exact List.mem_map.2
        ⟨_, Tables.mem_variables_setVariable.2 (.inl ⟨rfl, other, hother, rfl⟩), rfl⟩
    · exact .inl (List.mem_map_of_mem (Tables.mem_variables_setVariable.2 (.inr ⟨hother, hid⟩)))
  | @deleteVariable packId variableId pack row _ _ hrow howner =>
    obtain ⟨hmem, rfl⟩ := Tables.variableRow?_eq_some hrow
    refine hdeclares.of_keys rfl fun other hother => ?_
    by_cases hid : other.id = row.id
    · obtain rfl := List.inj_on_of_nodup_map hids hother hmem hid
      exact .inr (hnames other hrow)
    · exact .inl (List.mem_map_of_mem (List.mem_filter.2 ⟨hother, by simpa using hid⟩))
  | @importPack envelope default hcheck haccepts hdefault =>
    intro row hrow name hneeds
    rw [Tables.addVariables, List.map_append, PackVariable.map_key_numbered, List.mem_append,
      Tables.variables_putAll, Tables.variables_putAll]
    obtain hrow | hrow := Tables.mem_templates_putAll hrow
    · obtain ⟨old, hold, rfl⟩ := List.mem_map.1 hrow
      obtain ⟨hmem, hpack⟩ := Tables.mem_templatesOf.1 (List.mem_filter.1 hold).1
      exact absurd hneeds (hcopied hmem hpack hdefault name)
    · obtain hrow | hrow := Tables.mem_templates_putAll hrow
      · obtain ⟨template, htemplate, rfl⟩ := List.mem_map.1 hrow
        obtain ⟨exported, hexported, rfl⟩ :=
          List.mem_map.1 (hneeds.mem_of_accepts (haccepts template htemplate))
        exact .inr (List.mem_map.2 ⟨_, List.mem_map_of_mem hexported, rfl⟩)
      · exact .inl (hdeclares row hrow name hneeds)

end Request

/-- In a store that knows the system variables, names that are needed are
    declared as long as no request takes one away. This is what a clone of a
    pack rests on. -/
theorem LeadsTo.declares {registry : Registry} {tables : Tables} (hsystem : registry.HasSystem)
    (hleads : LeadsTo registry (Request.KeepsNames registry) .empty tables) :
    tables.Declares registry := by
  refine hleads.keeps (Tables.Declares registry) .empty (by simp [Tables.Declares, Tables.empty])
    ?_ fun row hkept => hkept
  intro tables after α request hbefore _ hkept hnames heffect
  exact heffect.declares hbefore hsystem hnames hkept

end PromptPacks
