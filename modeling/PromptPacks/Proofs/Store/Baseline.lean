import PromptPacks.Proofs.Store.Frame

namespace PromptPacks

open PromptPacks.Digest PromptPacks.Transaction

namespace Tables

/-- The default pack as it is shipped: no other pack is a default one, it has
    the shipped name and description and no author, the shipped templates with
    their hashes and nothing else. -/
structure IsBaseline (tables : Tables) (default : Pack) : Prop where
  mem : default ∈ tables.packs
  isDefault_iff : ∀ pack ∈ tables.packs, pack.isDefault = true ↔ pack = default
  name : default.name = defaultPackName
  description : default.description = some defaultPackDescription
  author : default.author = none
  templates : tables.templates.filter (·.packId == default.id) =
    ShippedTemplate.all.map fun shipped =>
      ⟨default.id, shipped.id, shipped.content, contentHash shipped.content⟩
  nodup_templateIds :
    ((tables.templates.filter (·.packId == default.id)).map (·.templateId)).Nodup
  «variables» : tables.variables.filter (·.packId == default.id) = []

variable {tables after : Tables} {default : Pack}

/-- The pack that is called the baseline is the default one. -/
theorem IsBaseline.isDefault (hbaseline : tables.IsBaseline default) : default.isDefault = true :=
  (hbaseline.isDefault_iff default hbaseline.mem).2 rfl

/-- A search for the default pack finds the baseline, as there is only one
    default pack. -/
theorem IsBaseline.defaultPack?_eq (hbaseline : tables.IsBaseline default) (hvalid : tables.Valid) :
    tables.defaultPack? = some default :=
  hvalid.defaultPack?_of_mem hbaseline.mem hbaseline.isDefault

/-- All templates of the default pack are shipped ones, in content and in hash. -/
theorem IsBaseline.exists_shipped (hbaseline : tables.IsBaseline default) {row : PackTemplate}
    (hrow : row ∈ tables.templates) (hpack : row.packId = default.id) :
    ∃ shipped ∈ ShippedTemplate.all, row = shipped.row default.id := by
  have hmem : row ∈ tables.templates.filter (·.packId == default.id) :=
    List.mem_filter.2 ⟨hrow, by simpa using hpack⟩
  rw [hbaseline.templates] at hmem
  obtain ⟨shipped, hshipped, rfl⟩ := List.mem_map.1 hmem
  exact ⟨shipped, hshipped, rfl⟩

/-- The default pack stays as it is shipped as long as nothing of it changes.
    What happens to other packs does not matter. -/
theorem IsBaseline.of_agreesOn (hbaseline : tables.IsBaseline default) (hvalid : after.Valid)
    (hagrees : AgreesOn default.id tables after) : after.IsBaseline default := by
  have hmem := hagrees.mem_packs hbaseline.mem rfl
  refine { hbaseline with
    mem := hmem
    isDefault_iff := fun pack hpack => ⟨fun hdefault => ?_, ?_⟩
    templates := hagrees.templates.trans hbaseline.templates
    nodup_templateIds := by rw [hagrees.templates]; exact hbaseline.nodup_templateIds
    «variables» := hagrees.variables.trans hbaseline.variables }
  · exact hvalid.oneDefault pack hpack default hmem hdefault hbaseline.isDefault
  · rintro rfl
    exact hbaseline.isDefault

/-- A further seeding finds all shipped templates in the default pack and
    changes nothing, so seeding can be repeated at will. -/
theorem IsBaseline.refreshAll_eq (hbaseline : tables.IsBaseline default) (hvalid : tables.Valid) :
    tables.refreshAll (ShippedTemplate.all.map (·.row default.id)) = tables := by
  refine refreshAll_of_held fun row hrow => ?_
  have hmem : row ∈ tables.templates.filter (·.packId == default.id) :=
    hbaseline.templates ▸ hrow
  rw [hvalid.template?_of_mem (List.mem_filter.1 hmem).1, Option.map_some]

/-- Seeding puts the shipped pack into tables that have no pack. Templates and
    variables belong to packs, so there are none of these either. -/
theorem isBaseline_firstSeed (hvalid : tables.Valid) (hempty : tables.packs = []) :
    ((tables.addPack (uniqueName defaultPackName tables.packNames) (some defaultPackDescription)
      none true).refreshAll (ShippedTemplate.all.map (·.row (tables.lastPack + 1)))).IsBaseline
        ⟨tables.lastPack + 1, defaultPackName, some defaultPackDescription, none, true⟩ := by
  have hnone : ∀ packId, ¬tables.HasPack packId := by
    rintro packId ⟨pack, hpack, -⟩
    rw [hempty] at hpack
    cases hpack
  have htemplates : tables.templates = [] :=
    List.eq_nil_iff_forall_not_mem.2 fun row hrow => hnone _ (hvalid.templatePacks row hrow)
  have hvariables : tables.variables = [] :=
    List.eq_nil_iff_forall_not_mem.2 fun row hrow => hnone _ (hvalid.variablePacks row hrow)
  have hname : uniqueName defaultPackName tables.packNames = defaultPackName :=
    uniqueName_of_free (by simp [packNamed?, hempty])
  have hkeys := ShippedTemplate.nodup_keys (tables.lastPack + 1)
  have hfresh : ∀ row ∈ ShippedTemplate.all.map (·.row (tables.lastPack + 1)),
      row.key ∉ (tables.addPack (uniqueName defaultPackName tables.packNames)
        (some defaultPackDescription) none true).templates.map PackTemplate.key := by
    intro row _
    simp [addPack, htemplates]
  have hrows : ∀ row ∈ ShippedTemplate.all.map (·.row (tables.lastPack + 1)),
      (row.packId == (tables.lastPack + 1 : Int)) = true := by
    intro row hrow
    obtain ⟨shipped, -, rfl⟩ := List.mem_map.1 hrow
    simp [ShippedTemplate.row]
  rw [refreshAll_of_fresh hkeys hfresh, putAll_of_fresh hkeys hfresh, addPack, hempty, htemplates,
    hname, List.nil_append, List.nil_append]
  exact {
    mem := List.mem_singleton.2 rfl
    isDefault_iff := fun pack hpack => by simp [List.mem_singleton.1 hpack]
    name := rfl
    description := rfl
    author := rfl
    templates := List.filter_eq_self.2 hrows
    nodup_templateIds := by
      rw [List.filter_eq_self.2 hrows, List.map_map]
      exact ShippedTemplate.nodup_ids
    «variables» := by simp [hvariables] }

end Tables

namespace Request

variable {α : Type} {registry : Registry} {tables after : Tables} {default : Pack}
  {request : Request α}

/-- A request that is to change the default pack fails, unless it is a seeding,
    which finds nothing to do. -/
theorem Effect.eq_of_target (heffect : request.Effect registry tables after)
    (hvalid : tables.Valid) (hbaseline : tables.IsBaseline default)
    (htarget : request.target? tables = some default.id) : after = tables := by
  have hdefault := hbaseline.defaultPack?_eq hvalid
  have hclosed : ∀ {packId : Int} {pack : Pack}, tables.pack? packId = some pack →
      pack.isDefault = false → some packId ≠ some default.id := by
    rintro packId pack hpack heditable ⟨rfl⟩
    rw [hvalid.pack?_of_mem hbaseline.mem, Option.some.injEq] at hpack
    rw [← hpack, hbaseline.isDefault] at heditable
    cases heditable
  cases heffect with
  | seed hfound =>
    obtain rfl := Option.some.inj (hfound.symm.trans hdefault)
    exact hbaseline.refreshAll_eq hvalid
  | updatePack hpack heditable | deletePack hpack heditable | setTemplate hpack heditable
  | resetTemplate hpack heditable | resetAll hpack heditable | createVariable _ hpack heditable
  | updateVariable hpack heditable | deleteVariable hpack heditable =>
    exact absurd htarget (hclosed hpack heditable)
  | unchanged => rfl
  | firstSeed hnone =>
    rw [hnone] at hdefault
    cases hdefault
  | createPack | importPack | assignPack | setStoryValues => cases htarget

/-- No effect of a request changes the default pack. Most cannot reach it, and a
    seeding finds it as it should be. -/
theorem Effect.isBaseline (heffect : request.Effect registry tables after) (hvalid : tables.Valid)
    (hafter : after.Valid) (hbaseline : tables.IsBaseline default) : after.IsBaseline default := by
  by_cases htarget : request.target? tables = some default.id
  · rw [heffect.eq_of_target hvalid hbaseline htarget]
    exact hbaseline
  · exact hbaseline.of_agreesOn hafter
      (heffect.agreesOn hvalid ⟨default, hbaseline.mem, rfl⟩ htarget)

/-- The only request that adds a pack where there is none is a seeding. All
    others need a pack to copy from, to fill up from or to work on. -/
theorem Effect.of_packs_eq_nil (heffect : request.Effect registry tables after)
    (hvalid : tables.Valid) (hempty : tables.packs = []) :
    after.packs = [] ∨ ∃ default, after.IsBaseline default := by
  cases heffect with
  | unchanged => exact .inl hempty
  | firstSeed => exact .inr ⟨_, Tables.isBaseline_firstSeed hvalid hempty⟩
  | seed hdefault | createPack hdefault | importPack _ _ hdefault =>
    simp [Tables.defaultPack?, hempty] at hdefault
  | updatePack hpack | deletePack hpack | setTemplate hpack | resetTemplate hpack | resetAll hpack
  | createVariable _ hpack | updateVariable hpack | deleteVariable hpack =>
    simp [Tables.pack?, hempty] at hpack
  | assignPack | setStoryValues => exact .inl hempty

end Request

namespace Reachable

variable {registry : Registry} {tables : Tables}

/-- A store has no pack at all, or its default pack is the shipped one. This is
    the invariant that the baseline rests on, carried through all runs. -/
theorem packs_eq_nil_or_isBaseline (hreachable : Reachable registry tables) :
    tables.packs = [] ∨ ∃ default, tables.IsBaseline default := by
  refine hreachable.keeps (fun tables => tables.packs = [] ∨ ∃ default, tables.IsBaseline default)
    (.inl rfl) (fun hbefore hafter hkept heffect => ?_) fun row hkept => ?_
  · obtain hempty | ⟨default, hbaseline⟩ := hkept
    · exact heffect.of_packs_eq_nil hbefore.valid hempty
    · exact .inr ⟨default, heffect.isBaseline hbefore.valid hafter.valid hbaseline⟩
  · obtain hempty | ⟨default, hbaseline⟩ := hkept
    · exact .inl hempty
    · exact .inr ⟨default, { hbaseline with }⟩

/-- Whatever is found as the default pack of a store is the shipped one. -/
theorem isBaseline_of_defaultPack? (hreachable : Reachable registry tables) {default : Pack}
    (hdefault : tables.defaultPack? = some default) : tables.IsBaseline default := by
  obtain hempty | ⟨other, hbaseline⟩ := hreachable.packs_eq_nil_or_isBaseline
  · simp [Tables.defaultPack?, hempty] at hdefault
  · rw [hbaseline.defaultPack?_eq hreachable.valid, Option.some.injEq] at hdefault
    exact hdefault ▸ hbaseline

/-- As soon as there is a pack there is a default one, and whatever happens from
    then on, it stays the same pack with what it was shipped with. -/
theorem isBaseline_of_leadsTo (hreachable : Reachable registry tables) :
    tables.packs = [] ∨ ∃ default, ∀ later, LeadsTo registry Request.IsAny tables later →
      later.IsBaseline default := by
  refine hreachable.packs_eq_nil_or_isBaseline.imp_right ?_
  rintro ⟨default, hbaseline⟩
  refine ⟨default, fun later hleads => hleads.keeps (·.IsBaseline default) hreachable hbaseline
    (fun hbefore hafter hkept _ heffect => ?_) fun row hkept => { hkept with }⟩
  exact heffect.isBaseline hbefore.valid hafter.valid hkept

/-- In the sample, and whatever happens to it later, the default pack is the
    shipped one. -/
theorem isBaseline_sample :
    ∃ default, ∀ later, LeadsTo .empty Request.IsAny sample later → later.IsBaseline default := by
  refine reachable_sample.isBaseline_of_leadsTo.resolve_left ?_
  decide +kernel

end Reachable

end PromptPacks
