import PromptPacks.Proofs.Store.Contexts

namespace PromptPacks

open PromptPacks.Store PromptPacks.Template PromptPacks.Transaction

namespace Tables

/-- The content that counts for a template of a pack: that of the pack, or else
    that of the default pack, or else the shipped one. -/
inductive Counts (tables : Tables) (packId defaultId : Int) (templateId : String) :
    String → Prop where
  | own {row : PackTemplate} (hrow : row ∈ tables.templates)
    (hkey : row.key = (packId, templateId)) : Counts tables packId defaultId templateId row.content
  | default {row : PackTemplate}
    (hown : (packId, templateId) ∉ tables.templates.map PackTemplate.key)
    (hrow : row ∈ tables.templates) (hkey : row.key = (defaultId, templateId)) :
    Counts tables packId defaultId templateId row.content
  | shipped {shipped : ShippedTemplate}
    (hown : (packId, templateId) ∉ tables.templates.map PackTemplate.key)
    (hdefault : (defaultId, templateId) ∉ tables.templates.map PackTemplate.key)
    (hshipped : shipped ∈ ShippedTemplate.all) (hid : shipped.id = templateId) :
    Counts tables packId defaultId templateId shipped.content

/-- No content counts for a template: neither the pack nor the default pack has
    it, and none with its identifier is shipped. -/
structure LacksTemplate (tables : Tables) (packId defaultId : Int) (templateId : String) :
    Prop where
  own : (packId, templateId) ∉ tables.templates.map PackTemplate.key
  default : (defaultId, templateId) ∉ tables.templates.map PackTemplate.key
  shipped : ∀ shipped ∈ ShippedTemplate.all, shipped.id ≠ templateId

end Tables

namespace Store.Rendering

/-- The pack that a rendering uses: that of its story, or the default pack if it
    is for none. -/
inductive Uses (rendering : Rendering) (tables : Tables) (default : Pack) : Int → Prop where
  | bare (hnone : rendering.storyId = none) : Uses rendering tables default default.id
  | story {story : Story} (hstory : story ∈ tables.stories)
    (hid : rendering.storyId = some story.id) : Uses rendering tables default story.packId

variable {registry : Registry} {tables : Tables} {rendering : Rendering} {default : Pack}
  {packId : Int}

/-- The search for a content changes nothing, and it fails only where no content
    counts: neither the pack nor the default pack has the template, nor is it a
    shipped one. -/
theorem contentOf_spec (hvalid : tables.Valid) (hdefault : tables.defaultPack? = some default)
    (packId : Int) (templateId : String) :
    (contentOf packId templateId).Outcome tables
      (fun reason => reason = .refused (.notFound .template templateId) ∧
        tables.LacksTemplate packId default.id templateId)
      fun content after => tables.Counts packId default.id templateId content ∧ after = tables := by
  rw [contentOf, outcome_bind, outcome_ask]
  cases hown : tables.template? packId templateId with
  | some row =>
    obtain ⟨hrow, hkey⟩ := hvalid.template?_eq_some_iff.1 hown
    exact ⟨.own hrow hkey, rfl⟩
  | none =>
    simp only [outcome_bind, outcome_requireDefault, hdefault, outcome_ask]
    refine ⟨by simp, ?_⟩
    rintro _ ⟨rfl⟩
    have hlacks := Tables.template?_eq_none.1 hown
    cases hfallback : tables.template? default.id templateId with
    | some row =>
      obtain ⟨hrow, hkey⟩ := hvalid.template?_eq_some_iff.1 hfallback
      exact ⟨.default hlacks hrow hkey, rfl⟩
    | none =>
      have hlacksDefault := Tables.template?_eq_none.1 hfallback
      cases hfind : ShippedTemplate.find? templateId with
      | some shipped =>
        have hid : shipped.id = templateId := by simpa using List.find?_some hfind
        exact ⟨.shipped hlacks hlacksDefault (List.mem_of_find?_eq_some hfind) hid, rfl⟩
      | none =>
        refine ⟨rfl, hlacks, hlacksDefault, fun shipped hshipped => ?_⟩
        simpa using List.find?_eq_none.1 hfind shipped hshipped

/-- A rendering without its story finds no pack. -/
theorem resolvePack_missing {storyId : Int} (hid : rendering.storyId = some storyId)
    (hmissing : tables.story? storyId = none) :
    rendering.resolvePack tables = .error (.refused (.notFound .story (toString storyId))) := by
  rw [resolvePack, hid]
  exact bind_eq_of_error (readStory_missing hmissing)

/-- A rendering finds the pack that it uses, with its story or without one. -/
theorem Uses.exists_resolvePack (huses : rendering.Uses tables default packId)
    (hvalid : tables.Valid) (hreads : tables.ReadsStories) (hdefault : tables.defaultPack? = some default) : ∃ story,
      rendering.resolvePack tables = .ok ((story, packId), tables) := by
  cases huses with
  | bare hnone => exact ⟨none, resolvePack_default hdefault hnone⟩
  | story hstory hid => exact ⟨some _, resolvePack_story hvalid hreads hstory hid⟩

/-- The text of a rendering is made of the content that counts and of the values
    of its context. -/
theorem Uses.output_cases (huses : rendering.Uses tables default packId) (hvalid : tables.Valid)
    (hreads : tables.ReadsStories) (hdefault : tables.defaultPack? = some default)
    (templateId : String) : ∃ values,
      rendering.context registry tables = .ok (values, tables) ∧
        ((tables.LacksTemplate packId default.id templateId ∧
          rendering.output registry templateId tables =
            .error (.refused (.notFound .template templateId))) ∨
        ∃ content, tables.Counts packId default.id templateId content ∧
          rendering.output registry templateId tables =
            .ok (if ShippedTemplate.isExternalId templateId then content
              else render content values, tables)) := by
  obtain ⟨story, hresolve⟩ := huses.exists_resolvePack hvalid hreads hdefault
  refine ⟨_, context_eq_ok hresolve, ?_⟩
  have hcontent := contentOf_spec hvalid hdefault packId templateId
  rw [output, bind_eq_of_ok hresolve]
  dsimp only
  cases hrun : contentOf packId templateId tables with
  | error reason =>
    obtain ⟨rfl, hlacks⟩ := hcontent.of_error hrun
    exact .inl ⟨hlacks, bind_eq_of_error hrun⟩
  | ok result =>
    obtain ⟨content, after⟩ := result
    obtain ⟨hcounts, rfl⟩ := hcontent.of_ok hrun
    refine .inr ⟨content, hcounts, ?_⟩
    rw [bind_eq_of_ok hrun]
    split_ifs
    · rfl
    · exact bind_eq_of_ok contextFor_eq_ok

end Store.Rendering

/-- The tables of a store in which the shipped templates have been seeded at
    some time. -/
def IsSeeded (registry : Registry) (tables : Tables) : Prop :=
  ∃ start, Reachable registry start ∧
    LeadsTo registry Request.IsAny (Request.seed.after registry start) tables

namespace IsSeeded

open Reachable Store.Rendering

variable {registry : Registry} {tables : Tables}

theorem packs_ne_nil_after_seed {start : Tables} (hstart : Reachable registry start) :
    (Request.seed.after registry start).packs ≠ [] := by
  unfold Request.after
  have hseed := seed_spec hstart.valid
  cases hrun : Request.seed.run registry start with
  | error reason => exact (hseed.of_error hrun).elim
  | ok result =>
    obtain ⟨pack, before, -, hbefore, hafter, -⟩ := hseed.of_ok hrun
    dsimp only
    rw [hafter, Tables.packs_refreshAll]
    obtain ⟨-, hdefault, rfl⟩ | ⟨-, -, -, rfl⟩ := hbefore
    · exact List.ne_nil_of_mem (Tables.defaultPack?_eq_some hdefault).1
    · exact List.append_ne_nil_of_right_ne_nil _ (List.cons_ne_nil _ _)

/-- From the first seeding on there is a default pack, and it is the shipped
    one. -/
theorem exists_isBaseline (hseeded : IsSeeded registry tables) :
    Reachable registry tables ∧ ∃ default, tables.IsBaseline default := by
  obtain ⟨start, hstart, hleads⟩ := hseeded
  have hafter : Reachable registry (Request.seed.after registry start) := .request trivial hstart
  obtain ⟨default, hkept⟩ :=
    hafter.isBaseline_of_leadsTo.resolve_left (packs_ne_nil_after_seed hstart)
  exact ⟨hleads.reachable hafter, default, hkept tables hleads⟩

/-- A rendering fails for want of its story, or for want of the template in its
    pack, in the default pack and among the shipped ones, and for no other
    reason. Otherwise the content that counts is given back as it is if the
    template is an external one, and rendered with the values of the context of
    the same rendering if it is not. -/
theorem output_resolves (hseeded : IsSeeded registry tables) (rendering : Rendering)
    (templateId : String) :
    (∃ storyId, rendering.storyId = some storyId ∧ (∀ story ∈ tables.stories, story.id ≠ storyId) ∧
      rendering.context registry tables =
        .error (.refused (.notFound .story (toString storyId))) ∧
      rendering.output registry templateId tables =
        .error (.refused (.notFound .story (toString storyId)))) ∨
    ∃ default ∈ tables.packs, default.isDefault = true ∧
      ∃ packId, rendering.Uses tables default packId ∧
        ∃ values, rendering.context registry tables = .ok (values, tables) ∧
          ((tables.LacksTemplate packId default.id templateId ∧
            rendering.output registry templateId tables =
              .error (.refused (.notFound .template templateId))) ∨
          ∃ content, tables.Counts packId default.id templateId content ∧
            rendering.output registry templateId tables =
              .ok (if ShippedTemplate.isExternalId templateId then content
                else render content values, tables)) := by
  obtain ⟨hreachable, default, hbaseline⟩ := hseeded.exists_isBaseline
  have hvalid := hreachable.valid
  have hreads := hreachable.sound.stories
  have hdefault := hbaseline.defaultPack?_eq hvalid
  cases hid : rendering.storyId with
  | none =>
    have huses : rendering.Uses tables default default.id := .bare hid
    exact .inr ⟨default, hbaseline.mem, hbaseline.isDefault, _, huses,
      huses.output_cases hvalid hreads hdefault templateId⟩
  | some storyId =>
    cases hstory : tables.story? storyId with
    | none =>
      have hmissing := resolvePack_missing hid hstory
      refine .inl ⟨storyId, rfl, fun story hmem => ?_, bind_eq_of_error hmissing,
        bind_eq_of_error hmissing⟩
      simpa using List.find?_eq_none.1 hstory story hmem
    | some story =>
      obtain ⟨hmem, rfl⟩ := Tables.story?_eq_some hstory
      have huses : rendering.Uses tables default story.packId := .story hmem hid
      exact .inr ⟨default, hbaseline.mem, hbaseline.isDefault, _, huses,
        huses.output_cases hvalid hreads hdefault templateId⟩

theorem isSeeded_tale : IsSeeded .empty tale := by
  obtain ⟨row, hrun⟩ := createStory_sample
  refine ⟨.empty, .empty, .story hrun (.request ?_ trivial
    (.request trivial trivial (.request trivial trivial .start)))⟩
  rintro place ⟨rfl⟩
  exact ⟨by decide, by decide⟩

/-- The pack of the story has an external template of its own, which counts
    before the shipped one. -/
theorem output_resolves_tale : IsSeeded .empty tale ∧
    (Rendering.start (some 1)).output .empty "image-prompt" tale = .ok ("A sketch.", tale) := by
  have hown : (2, "image-prompt") ∈ tale.templates.map PackTemplate.key := by decide +kernel
  have hcontent : ∀ row ∈ tale.templates, row.key = (2, "image-prompt") →
      row.content = "A sketch." := by
    decide +kernel
  have hstories : tale.stories.map (fun story => (story.id, story.packId)) = [(1, 2)] := by
    decide +kernel
  obtain ⟨story, hstory, hkey⟩ := List.mem_map.1 (hstories ▸ List.mem_singleton_self (1, 2))
  obtain ⟨hid, -⟩ := Prod.mk.inj hkey
  refine ⟨isSeeded_tale, ?_⟩
  obtain ⟨storyId, ⟨rfl⟩, hmissing, -⟩ | ⟨default, -, -, packId, huses, values, -, houtput⟩ :=
    isSeeded_tale.output_resolves (.start (some 1)) "image-prompt"
  · exact absurd hid (hmissing story hstory)
  · have hpackId : packId = 2 := by
      cases huses with
      | bare hnone => cases hnone
      | @story found hfound hfor =>
        have hmem := List.mem_map_of_mem (f := fun story : Story => (story.id, story.packId)) hfound
        rw [hstories, List.mem_singleton] at hmem
        exact (Prod.mk.inj hmem).2
    subst hpackId
    obtain ⟨hlacks, -⟩ | ⟨content, hcounts, hrun⟩ := houtput
    · exact absurd hown hlacks.own
    · cases hcounts with
      | @own row hrow hkey =>
        rw [hrun, hcontent row hrow hkey]
        rfl
      | default hmissing => exact absurd hown hmissing
      | shipped hmissing => exact absurd hown hmissing

end IsSeeded

end PromptPacks
