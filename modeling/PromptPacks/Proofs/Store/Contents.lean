import PromptPacks.Proofs.Digest.Content
import PromptPacks.Proofs.Store.Requests
import PromptPacks.Proofs.Template.Acceptance

namespace PromptPacks

open PromptPacks.Digest PromptPacks.Store PromptPacks.Template PromptPacks.Transaction

namespace Tables

/-- The default pack has a template with the same identifier and the same normal
    form. -/
def HasBaseline (tables : Tables) (row : PackTemplate) : Prop :=
  ∃ default ∈ tables.packs, default.isDefault = true ∧ ∃ baseline ∈ tables.templates,
    baseline.key = (default.id, row.templateId) ∧
      normalize baseline.content = normalize row.content

instance (tables : Tables) (row : PackTemplate) : Decidable (tables.HasBaseline row) :=
  inferInstanceAs (Decidable (∃ default ∈ tables.packs, _ ∧ ∃ baseline ∈ tables.templates, _))

/-- Templates with the same identifier but different normal forms have different
    digests. -/
def NoCollision (tables : Tables) : Prop :=
  ∀ a ∈ tables.templates, ∀ b ∈ tables.templates, a.templateId = b.templateId →
    sha256 (normalize a.content).toUTF8.toList = sha256 (normalize b.content).toUTF8.toList →
    normalize a.content = normalize b.content

end Tables

namespace Reachable

variable {registry : Registry} {tables : Tables}

/-- Every template that can be rendered is accepted by the strict check,
    whichever way it came into its pack. -/
theorem exists_check_content (hreachable : Reachable registry tables) {row : PackTemplate}
    (hrow : row ∈ tables.templates)
    (hrendered : ShippedTemplate.isExternalId row.templateId = false) :
    ∃ references, check row.content = .ok references := by
  rw [exists_check_eq_ok]
  obtain ⟨declared, haccepts⟩ | ⟨shipped, hshipped, hid, hcontent⟩ :=
    (hreachable.sound.templates row hrow).source
  · obtain hexternal | hvalidate := haccepts
    · rw [hrendered] at hexternal
      cases hexternal
    · exact passes_of_validate hvalidate
  · rw [hcontent]
    exact ShippedTemplate.passes_content hshipped (hid ▸ hrendered)

/-- A template of the custom pack passes the strict check again. -/
theorem exists_check_content_sample :
    ∃ row ∈ sample.templates, row.packId = 2 ∧ row.templateId = "story-turn" ∧
      ∃ references, check row.content = .ok references := by
  obtain ⟨row, hrow, hpack, hid⟩ : ∃ row ∈ sample.templates, row.packId = 2 ∧
      row.templateId = "story-turn" := by decide +kernel
  refine ⟨row, hrow, hpack, hid, reachable_sample.exists_check_content hrow ?_⟩
  rw [hid]
  decide +kernel

/-- There is a default pack as soon as there is any pack. So what is copied from
    it can always be found. -/
theorem exists_defaultPack? (hreachable : Reachable registry tables) {pack : Pack}
    (hpack : pack ∈ tables.packs) : ∃ default, tables.defaultPack? = some default := by
  obtain ⟨default, hmem, hdefault⟩ := hreachable.sound.hasDefault pack hpack
  exact ⟨default, hreachable.valid.defaultPack?_of_mem hmem hdefault⟩

/-- The hash of the baseline is that of a template if the two have the same normal
    form. Only the contents that are stored are assumed not to collide. -/
theorem hash_eq_iff_hasBaseline (hreachable : Reachable registry tables)
    (hcollision : tables.NoCollision) {default : Pack}
    (hdefault : tables.defaultPack? = some default) {row : PackTemplate}
    (hrow : row ∈ tables.templates) :
    (tables.template? default.id row.templateId).map (·.hash) = some row.hash ↔
      tables.HasBaseline row := by
  obtain ⟨hmem, hisDefault⟩ := Tables.defaultPack?_eq_some hdefault
  have hhash := (hreachable.sound.templates row hrow).hash
  rw [Option.map_eq_some_iff]
  constructor
  · rintro ⟨baseline, hbaseline, hsame⟩
    obtain ⟨hfound, hkey⟩ := hreachable.valid.template?_eq_some_iff.1 hbaseline
    have hid : baseline.templateId = row.templateId := congrArg Prod.snd hkey
    rw [(hreachable.sound.templates baseline hfound).hash, hhash, contentHash_eq_iff] at hsame
    exact ⟨default, hmem, hisDefault, baseline, hfound, hkey,
      hcollision baseline hfound row hrow hid hsame⟩
  · rintro ⟨other, hother, hotherDefault, baseline, hfound, hkey, hnormal⟩
    obtain rfl := hreachable.valid.oneDefault other hother default hmem hotherDefault hisDefault
    refine ⟨baseline, hreachable.valid.template?_eq_some_iff.2 ⟨hfound, hkey⟩, ?_⟩
    rw [(hreachable.sound.templates baseline hfound).hash, hhash]
    exact contentHash_congr hnormal

/-- Hashes always belong to their contents. So a template counts as unmodified
    exactly if it is one of the default pack, or the default pack has the same
    one up to the normal form. -/
theorem hash_eq_and_statuses_eq (hreachable : Reachable registry tables) :
    (∀ row ∈ tables.templates, row.hash = contentHash row.content) ∧
      (∀ pack ∈ tables.packs, pack.isDefault = true → statuses pack.id tables =
        .ok ((tables.templatesOf pack.id).map fun row => (row.templateId, .unmodified), tables)) ∧
      (tables.NoCollision → ∀ pack ∈ tables.packs, pack.isDefault = false →
        statuses pack.id tables = .ok ((tables.templatesOf pack.id).map fun row =>
          (row.templateId, if tables.HasBaseline row then .unmodified else .modified),
          tables)) := by
  refine ⟨fun row hrow => (hreachable.sound.templates row hrow).hash, ?_, ?_⟩
  · intro pack hpack hdefault
    refine Outcome.eq_ok ?_
    rw [statuses, outcome_bind, outcome_requirePack, hreachable.valid.pack?_of_mem hpack]
    refine ⟨by simp, fun found hfound => ?_⟩
    obtain rfl := Option.some.inj hfound
    rw [outcome_bind, outcome_ask, if_pos hdefault]
    exact ⟨rfl, rfl⟩
  · intro hcollision pack hpack hdefault
    obtain ⟨default, hbaseline⟩ := hreachable.exists_defaultPack? hpack
    refine Outcome.eq_ok ?_
    rw [statuses, outcome_bind, outcome_requirePack, hreachable.valid.pack?_of_mem hpack]
    refine ⟨by simp, fun found hfound => ?_⟩
    obtain rfl := Option.some.inj hfound
    rw [outcome_bind, outcome_ask, if_neg (by simp [hdefault]), outcome_bind,
      outcome_requireDefault, hbaseline]
    refine ⟨by simp, fun other hother => ?_⟩
    obtain rfl := Option.some.inj hother
    rw [outcome_bind, outcome_get]
    refine ⟨List.map_congr_left fun row hrow => ?_, rfl⟩
    have hiff := hreachable.hash_eq_iff_hasBaseline hcollision hbaseline
      (Tables.mem_templatesOf.1 hrow).1
    simp only [TemplateStatus.ofHashes, hiff]

/-- The contents of the sample have different hashes where they differ. -/
theorem noCollision_sample : sample.NoCollision := by
  have hdiffers : ∀ a ∈ sample.templates, ∀ b ∈ sample.templates, a.templateId = b.templateId →
      a.content = b.content ∨ sha256 (normalize a.content).toUTF8.toList ≠
        sha256 (normalize b.content).toUTF8.toList := by decide +kernel
  intro a ha b hb hid hdigest
  obtain hcontent | hdigests := hdiffers a ha b hb hid
  · rw [hcontent]
  · exact absurd hdigest hdigests

/-- A prompt that a pack has changed counts as modified there, although only its
    content is different. -/
theorem statuses_sample : ∃ entries, statuses 2 sample = .ok (entries, sample) ∧
    ("image-prompt", .modified) ∈ entries := by
  have hpack : ⟨2, "Custom", none, none, false⟩ ∈ sample.packs := by decide +kernel
  have hstatuses := reachable_sample.hash_eq_and_statuses_eq.2.2 noCollision_sample _ hpack rfl
  obtain ⟨row, hrow, hpackId, hid, hcontent⟩ : ∃ row ∈ sample.templates, row.packId = 2 ∧
      row.templateId = "image-prompt" ∧ row.content = "A sketch." := by decide +kernel
  have hbaseline : ∀ default ∈ sample.packs, default.isDefault = true →
      ∀ baseline ∈ sample.templates, baseline.key = (default.id, "image-prompt") →
        normalize baseline.content ≠ normalize "A sketch." := by decide +kernel
  refine ⟨_, hstatuses, List.mem_map.2 ⟨row, Tables.mem_templatesOf.2 ⟨hrow, hpackId⟩, ?_⟩⟩
  rw [hid, if_neg]
  rintro ⟨default, hmem, hdefault, baseline, hfound, hkey, hnormal⟩
  exact hbaseline default hmem hdefault baseline hfound (hid ▸ hkey) (hcontent ▸ hnormal)

end Reachable

end PromptPacks
