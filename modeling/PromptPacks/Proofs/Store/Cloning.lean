import PromptPacks.Proofs.Store.Needs

namespace PromptPacks.Reachable

open PromptPacks.Store PromptPacks.Template PromptPacks.Transaction

variable {registry : Registry} {tables : Tables} {pack : Pack}

/-- What is exported of a pack is accepted again if the pack still has a
    variable for every name that its templates need. -/
theorem accepts_exported_iff (hreachable : Reachable registry tables) :
    (∀ template ∈ (tables.exported pack).templates, AcceptsTemplate registry
      ((tables.exported pack).variables.map (·.definition.name)) template.templateId
        template.content) ↔
      ∀ row ∈ tables.templates, row.packId = pack.id → ∀ name, row.Needs registry name →
        (pack.id, name) ∈ tables.variables.map PackVariable.key := by
  have hdeclared : ∀ name, name ∈ (tables.exported pack).variables.map (·.definition.name) ↔
      (pack.id, name) ∈ tables.variables.map PackVariable.key := by
    intro name
    simp only [Tables.exported, List.map_map, List.mem_map, Function.comp_apply,
      Tables.mem_variablesOf, PackVariable.key, Prod.mk.injEq, and_assoc]
    exact Iff.rfl
  simp only [← hdeclared]
  constructor
  · intro haccepts row hrow hpack name hneeds
    refine hneeds.mem_of_accepts (haccepts ⟨row.templateId, row.content, some row.hash⟩ ?_)
    exact List.mem_map.2 ⟨row, Tables.mem_templatesOf.2 ⟨hrow, hpack⟩, rfl⟩
  · intro hneeds template htemplate
    obtain ⟨row, hrow, rfl⟩ := List.mem_map.1 htemplate
    obtain ⟨hmem, hpack⟩ := Tables.mem_templatesOf.1 hrow
    exact (hreachable.sound.templates row hmem).accepts_iff.2 (hneeds row hmem hpack)

/-- Of the rules for an import only two can turn down what has been exported:
    that for names of packs, and that for templates. All others look at what
    every stored pack keeps to, and a default pack is there as soon as there is
    any pack. -/
theorem importPack_exported_iff (hreachable : Reachable registry tables)
    (hpack : pack ∈ tables.packs) :
    (∃ new after, importPack registry (tables.exported pack) tables = .ok (new, after)) ↔
      checkPackName pack.name = .ok () ∧
        ∀ row ∈ tables.templates, row.packId = pack.id → ∀ name, row.Needs registry name →
          (pack.id, name) ∈ tables.variables.map PackVariable.key := by
  have hdefault : ∃ default, tables.defaultPack? = some default := by
    obtain ⟨default, hmem, hisDefault⟩ := hreachable.sound.hasDefault pack hpack
    exact ⟨default, hreachable.valid.defaultPack?_of_mem hmem hisDefault⟩
  rw [importPack_eq_ok_iff hreachable.valid, hreachable.check_exported_iff,
    hreachable.accepts_exported_iff]
  exact ⟨fun ⟨hname, hneeds, _⟩ => ⟨hname, hneeds⟩,
    fun ⟨hname, hneeds⟩ => ⟨hname, hneeds, hdefault⟩⟩

/-- Every pack can be exported, and what is exported can be imported again
    exactly if the name of the pack is accepted and the pack has a variable for
    every name that its templates need. Variables can be deleted and renamed
    whatever the templates need, so this may fail; it holds as long as no
    request does so to a variable that is needed. -/
theorem clone_succeeds_iff (hreachable : Reachable registry tables) (hpack : pack ∈ tables.packs) :
    ∃ envelope, exportPack pack.id tables = .ok (envelope, tables) ∧
      ((∃ new after, importPack registry envelope tables = .ok (new, after)) ↔
        checkPackName pack.name = .ok () ∧
          ∀ row ∈ tables.templates, row.packId = pack.id → ∀ name, row.Needs registry name →
            ∃ declared ∈ tables.variables, declared.packId = pack.id ∧ declared.name = name) ∧
      (checkPackName pack.name = .ok () → registry.HasSystem →
        LeadsTo registry (Request.KeepsNames registry) .empty tables →
          ∃ new after, importPack registry envelope tables = .ok (new, after)) := by
  have himport := hreachable.importPack_exported_iff hpack
  refine ⟨tables.exported pack, exportPack_eq_ok hreachable.valid hpack, ?_, ?_⟩
  · simpa only [List.mem_map, PackVariable.key, Prod.mk.injEq] using himport
  · intro hname hsystem hleads
    refine himport.2 ⟨hname, fun row hrow howner name hneeds => ?_⟩
    rw [← howner]
    exact hleads.declares hsystem row hrow name hneeds

/-- Tables with a pack that has a variable and a template that needs it. -/
def moodySample : Tables :=
  (Request.setTemplate 2 "story-turn" "\x7b\x7b mood \x7d\x7d").after .system
    ((Request.createVariable 2 mood none).after .system
      ((Request.createPack "Custom" none none).after .system (Request.seed.after .system .empty)))

theorem leadsTo_moodySample :
    LeadsTo .system (Request.KeepsNames .system) .empty moodySample := by
  refine .request trivial trivial (.request ?_ trivial (.request trivial trivial
    (.request trivial trivial .start)))
  rintro place ⟨⟩

theorem reachable_moodySample : Reachable .system moodySample :=
  leadsTo_moodySample.reachable .empty

theorem mem_packs_moodySample : ⟨2, "Custom", none, none, false⟩ ∈ moodySample.packs := by
  decide +kernel

/-- A custom pack with a variable that its template uses can be exported and
    imported again. -/
theorem clone_moodySample : ∃ envelope, exportPack 2 moodySample = .ok (envelope, moodySample) ∧
    ∃ new after, importPack .system envelope moodySample = .ok (new, after) := by
  obtain ⟨envelope, hexport, -, himport⟩ :=
    reachable_moodySample.clone_succeeds_iff mem_packs_moodySample
  exact ⟨envelope, hexport, himport (by decide) Registry.hasSystem_system leadsTo_moodySample⟩

/-- Tables with a pack whose template needs a variable that has been deleted. -/
def orphanedSample : Tables :=
  (Request.deleteVariable 2 1).after .system moodySample

/-- A pack whose template needs a variable that has been deleted cannot be
    cloned, although its name is in order. The evaluation stops at the free
    names, which need not be sorted to show this. -/
theorem clone_orphanedSample : Reachable .system orphanedSample ∧
    ∃ pack ∈ orphanedSample.packs, checkPackName pack.name = .ok () ∧
      ∃ envelope, exportPack pack.id orphanedSample = .ok (envelope, orphanedSample) ∧
        ¬∃ new after, importPack .system envelope orphanedSample = .ok (new, after) := by
  have hreachable : Reachable .system orphanedSample := .request trivial reachable_moodySample
  have hpack : ⟨2, "Custom", none, none, false⟩ ∈ orphanedSample.packs := by decide +kernel
  have hname : checkPackName "Custom" = .ok () := by decide
  have hrows : ∃ row ∈ orphanedSample.templates, row.packId = 2 ∧
      row.templateId = "story-turn" ∧ row.content = "\x7b\x7b mood \x7d\x7d" := by decide +kernel
  refine ⟨hreachable, _, hpack, hname, _, exportPack_eq_ok hreachable.valid hpack, ?_⟩
  obtain ⟨row, hrow, howner, hid, hcontent⟩ := hrows
  have hread : "mood" ∈ variableNames row.content := by
    have hnames : (Template.read row.content).toOption.map freeNames = some ["mood"] := by
      rw [hcontent, Template.read]
      decide +kernel
    unfold variableNames
    cases hparse : Template.read row.content with
    | error fault =>
      rw [hparse] at hnames
      cases hnames
    | ok template =>
      rw [hparse] at hnames
      exact mem_sortedNames.2 (Option.some.inj hnames ▸ List.mem_cons_self)
  have hneeds : row.Needs .system "mood" := by
    refine ⟨?_, hread, by decide +kernel, ?_⟩
    · rw [hid]
      decide +kernel
    · rw [hid]
      decide +kernel
  rw [hreachable.importPack_exported_iff hpack]
  rintro ⟨-, hdeclared⟩
  exact absurd (hdeclared row hrow howner "mood" hneeds) (by decide +kernel)

end PromptPacks.Reachable
