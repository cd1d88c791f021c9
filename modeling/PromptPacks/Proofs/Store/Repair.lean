import PromptPacks.Proofs.Digest.Content
import PromptPacks.Proofs.Store.Baseline

namespace PromptPacks

open PromptPacks.Digest PromptPacks.Store PromptPacks.Transaction

namespace Tables

variable {tables : Tables} {row : PackTemplate} {rows : List PackTemplate}

/-- The tables afterwards have a template with the key and the hash of a given
    one: the one that was there, if it had the hash before, and else exactly the
    given one. -/
def Settles (tables after : Tables) (row : PackTemplate) : Prop :=
  ∃ kept, after.template? row.packId row.templateId = some kept ∧ kept.hash = row.hash ∧
    (tables.template? row.packId row.templateId = some kept ∨
      (tables.template? row.packId row.templateId).map (·.hash) ≠ some row.hash ∧ kept = row)

/-- Refreshing a template leaves its row with the given content and hash,
    whether it was missing or different or right before. -/
theorem Valid.settles_refresh (hvalid : tables.Valid) (hpack : tables.HasPack row.packId) :
    tables.Settles (tables.refresh row) row := by
  by_cases hhash : (tables.template? row.packId row.templateId).map (·.hash) = some row.hash
  · obtain ⟨kept, hkept, hsame⟩ := Option.map_eq_some_iff.1 hhash
    rw [refresh_of_eq hhash]
    exact ⟨kept, hkept, hsame, .inl hkept⟩
  · rw [refresh_of_ne hhash]
    have hput : row ∈ (tables.put row).templates := mem_templates_put.2 (.inl rfl)
    exact ⟨row, (hvalid.put hpack).template?_of_mem hput, rfl, .inr ⟨hhash, rfl⟩⟩

/-- Each of some templates with different keys is settled on its own, as the
    others are not seen. -/
theorem Valid.settles_refreshAll (hvalid : tables.Valid)
    (hpacks : ∀ row ∈ rows, tables.HasPack row.packId) (hkeys : (rows.map PackTemplate.key).Nodup)
    (hrow : row ∈ rows) : tables.Settles (tables.refreshAll rows) row := by
  induction rows generalizing tables with
  | nil => cases hrow
  | cons first rest ih =>
    obtain ⟨hfirst, hrest⟩ := List.forall_mem_cons.1 hpacks
    obtain ⟨hkey, hkeys⟩ := List.nodup_cons.1 hkeys
    rw [refreshAll_cons]
    obtain rfl | hrow := List.mem_cons.1 hrow
    · have hlater : ∀ other ∈ rest, other.key ≠ (row.packId, row.templateId) := by
        intro other hother (hsame : other.key = row.key)
        exact hkey (hsame ▸ List.mem_map_of_mem hother)
      unfold Settles
      rw [template?_refreshAll_of_ne hlater]
      exact hvalid.settles_refresh hfirst
    · have hearlier : first.key ≠ (row.packId, row.templateId) := by
        intro (hsame : first.key = row.key)
        exact hkey (hsame ▸ List.mem_map_of_mem hrow)
      have hsettles := ih (hvalid.refresh hfirst)
        (fun other hother => hasPack_refresh.2 (hrest other hother)) hkeys hrow
      unfold Settles at hsettles
      rwa [template?_refresh_of_ne hearlier] at hsettles

end Tables

/-- A template of a pack under the identifier of a shipped one. -/
def PackTemplate.isShippedIn (row : PackTemplate) (packId : Int) : Bool :=
  row.packId == packId && ShippedTemplate.all.any (·.id == row.templateId)

/-- What has the key of a shipped template is one that seeding looks after. -/
theorem PackTemplate.isShippedIn_of_key_mem {row : PackTemplate} {packId : Int}
    (hkey : row.key ∈ (ShippedTemplate.all.map (·.row packId)).map PackTemplate.key) :
    row.isShippedIn packId = true := by
  rw [List.map_map] at hkey
  obtain ⟨shipped, hshipped, hsame⟩ := List.mem_map.1 hkey
  have hpack : row.packId = packId := (congrArg Prod.fst hsame).symm
  have hid : shipped.id = row.templateId := congrArg Prod.snd hsame
  simp only [isShippedIn, hpack, beq_self_eq_true, Bool.true_and, List.any_eq_true, beq_iff_eq]
  exact ⟨shipped, hshipped, hid⟩

/-- What a seeding has done: there is one default pack, which is the one that
    there was or else a new one, it has the shipped templates, and nothing else
    is touched. -/
structure Tables.Repairs (tables : Tables) (report : SeedReport) (after : Tables) : Prop where
  default : (report.createdPack = false ∧ after.packs = tables.packs ∧
      ∃ pack ∈ tables.packs, pack.isDefault = true ∧ pack.id = report.packId) ∨
    (report.createdPack = true ∧ (∀ pack ∈ tables.packs, pack.isDefault = false) ∧
      report.packId = tables.lastPack + 1 ∧
      ∃ name, IsFirstFree defaultPackName tables.packNames name ∧
        after.packs = tables.packs ++
          [⟨report.packId, name, some defaultPackDescription, none, true⟩])
  onlyDefault : ∃ pack, pack.id = report.packId ∧
    ∀ other, other ∈ after.packs ∧ other.isDefault = true ↔ other = pack
  settles : ∀ shipped ∈ ShippedTemplate.all, tables.Settles after (shipped.row report.packId)
  inserted : report.inserted = ShippedTemplate.all.countP (tables.lacksShipped report.packId)
  refreshed : report.refreshed =
    ShippedTemplate.all.countP (tables.differsFromShipped report.packId)
  templates : after.templates.filter (!·.isShippedIn report.packId) =
    tables.templates.filter (!·.isShippedIn report.packId)
  «variables» : after.variables = tables.variables
  stories : after.stories = tables.stories

namespace Tables.StartsWith

variable {tables start : Tables} {pack : Pack} {created : Bool}

/-- Refreshing the shipped templates repairs the pack: the report counts what
    was missing and what differed, and nothing else has changed. -/
theorem repairs (hstart : tables.StartsWith pack created start) (hvalid : tables.Valid) :
    tables.Repairs ((⟨pack.id, created, 0, 0⟩ : SeedReport).extended start ShippedTemplate.all)
      (start.refreshAll (ShippedTemplate.all.map (·.row pack.id))) := by
  have hvalidStart := hstart.valid hvalid
  have htemplate : ∀ packId templateId,
      start.template? packId templateId = tables.template? packId templateId := by
    intro packId templateId
    rw [template?, hstart.templates_eq, template?]
  have hpacks := hstart.hasPack_rows ShippedTemplate.all
  constructor
  case default =>
    rw [packs_refreshAll]
    cases hstart with
    | found hdefault =>
      obtain ⟨hmem, hisDefault⟩ := defaultPack?_eq_some hdefault
      exact .inl ⟨rfl, rfl, pack, hmem, hisDefault, rfl⟩
    | created hnone hname =>
      exact .inr ⟨rfl, defaultPack?_eq_none.1 hnone, rfl, _, hname, rfl⟩
  case onlyDefault =>
    refine ⟨pack, rfl, fun other => ?_⟩
    rw [packs_refreshAll]
    constructor
    · rintro ⟨hother, hisDefault⟩
      exact hvalidStart.oneDefault other hother pack hstart.mem hisDefault hstart.isDefault
    · rintro rfl
      exact ⟨hstart.mem, hstart.isDefault⟩
  case settles =>
    intro shipped hshipped
    have hsettles := hvalidStart.settles_refreshAll hpacks (ShippedTemplate.nodup_keys pack.id)
      (List.mem_map_of_mem hshipped)
    unfold Settles at hsettles ⊢
    rwa [htemplate] at hsettles
  case inserted =>
    have hlacks : start.lacksShipped pack.id = tables.lacksShipped pack.id :=
      funext fun shipped => by rw [lacksShipped, htemplate, lacksShipped]
    exact (Nat.zero_add _).trans (congrArg (ShippedTemplate.all.countP ·) hlacks)
  case refreshed =>
    have hdiffers : start.differsFromShipped pack.id = tables.differsFromShipped pack.id :=
      funext fun shipped => by rw [differsFromShipped, htemplate, differsFromShipped]
    exact (Nat.zero_add _).trans (congrArg (ShippedTemplate.all.countP ·) hdiffers)
  case templates =>
    rw [filter_refreshAll, hstart.templates_eq]
    intro other hkey
    rw [Bool.not_eq_false']
    exact other.isShippedIn_of_key_mem hkey
  case «variables» => rw [variables_refreshAll, hstart.variables_eq]
  case stories => rw [stories_refreshAll, hstart.stories_eq]

end Tables.StartsWith

namespace Store

variable {tables after : Tables} {report : SeedReport}

/-- A seeding finds nothing to do where another one has been, so it can be
    repeated at will. -/
theorem seed_of_repairs (hrepairs : tables.Repairs report after) (hvalid : after.Valid) :
    seed after = .ok (⟨report.packId, false, 0, 0⟩, after) := by
  obtain ⟨pack, hid, honly⟩ := hrepairs.onlyDefault
  obtain ⟨hpack, hisDefault⟩ := (honly pack).2 rfl
  have hdefault := hvalid.defaultPack?_of_mem hpack hisDefault
  have hheld : ∀ shipped ∈ ShippedTemplate.all, ∃ kept,
      after.template? pack.id shipped.id = some kept ∧
        kept.hash = contentHash shipped.content := by
    intro shipped hshipped
    obtain ⟨kept, hkept, hhash, -⟩ := hrepairs.settles shipped hshipped
    exact ⟨kept, hid ▸ hkept, hhash⟩
  have hmissing : ShippedTemplate.all.countP (after.lacksShipped pack.id) = 0 := by
    rw [List.countP_eq_zero]
    intro shipped hshipped
    obtain ⟨kept, hkept, -⟩ := hheld shipped hshipped
    simp [Tables.lacksShipped, hkept]
  have hdiffering : ShippedTemplate.all.countP (after.differsFromShipped pack.id) = 0 := by
    rw [List.countP_eq_zero]
    intro shipped hshipped
    obtain ⟨kept, hkept, hhash⟩ := hheld shipped hshipped
    simp [Tables.differsFromShipped, hkept, hhash]
  have hrefreshed : after.refreshAll (ShippedTemplate.all.map (·.row pack.id)) = after := by
    apply Tables.refreshAll_of_held
    intro row hrow
    obtain ⟨shipped, hshipped, rfl⟩ := List.mem_map.1 hrow
    obtain ⟨kept, hkept, hhash⟩ := hheld shipped hshipped
    exact Option.map_eq_some_iff.2 ⟨kept, hkept, hhash⟩
  have hfound : defaultOrNew after = .ok ((pack, false), after) := by
    apply Outcome.eq_ok
    rw [defaultOrNew, outcome_bind, outcome_ask, hdefault]
    exact ⟨rfl, rfl⟩
  rw [seed_eq_ok hfound ⟨pack, hpack, rfl⟩, SeedReport.extended, hmissing, hdiffering, hrefreshed,
    hid]

end Store

namespace Tables

/-- A seeding succeeds on all tables that keep their constraints, it repairs the
    default pack and nothing else, and a second one changes nothing. -/
theorem Valid.seed_repairs {tables : Tables} (hvalid : tables.Valid) :
    ∃ report after, seed tables = .ok (report, after) ∧ after.Valid ∧
      tables.Repairs report after ∧
      seed after = .ok (⟨report.packId, false, 0, 0⟩, after) := by
  obtain ⟨pack, created, start, hrun, hstart⟩ := exists_defaultOrNew_eq_ok tables
  have hafter := (hstart.valid hvalid).refreshAll (hstart.hasPack_rows ShippedTemplate.all)
  have hrepairs := hstart.repairs hvalid
  exact ⟨_, _, seed_eq_ok hrun hstart.hasPack, hafter, hrepairs,
    seed_of_repairs hrepairs hafter⟩

/-- Tables that no requests lead to: the default pack has an old template, one
    of its own and a variable, it lacks the other shipped templates, and another
    pack has taken its name. -/
def neglected : Tables where
  packs := [⟨4, defaultPackName, none, none, false⟩, ⟨7, "House", none, some "Ada", true⟩]
  templates := [⟨7, "story-turn", "Go on.", "stale"⟩, ⟨7, "own-note", "Note.", "unknown"⟩,
    ⟨4, "story-turn", "Mine.", "unknown"⟩]
  «variables» := [⟨1, 7, "mood", "Mood", .text, false, none, none, none, 0⟩]
  stories := [⟨1, "Dusk", none, defaultMode, none, none, none, 4, .empty⟩]
  lastPack := 7
  lastVariable := 1
  lastStory := 1

theorem valid_neglected : neglected.Valid := by
  constructor <;> simp [neglected, HasPack, PackTemplate.key, PackVariable.key, defaultPackName]

/-- Of the shipped templates, the default pack of the tables has only one, with
    a hash that no content has. -/
theorem template?_neglected {shipped : ShippedTemplate} (hshipped : shipped ∈ ShippedTemplate.all) :
    neglected.template? 7 shipped.id =
      if shipped.id = "story-turn" then some ⟨7, "story-turn", "Go on.", "stale"⟩ else none := by
  revert shipped
  decide +kernel

theorem lacksShipped_neglected : ShippedTemplate.all.countP (neglected.lacksShipped 7) =
    ShippedTemplate.all.length - 1 := by
  decide +kernel

/-- Only the template with an old text differs. Its hash is no hash at all,
    which can be seen from its length. -/
theorem differsFromShipped_neglected :
    ShippedTemplate.all.countP (neglected.differsFromShipped 7) = 1 := by
  have hdiffers : ∀ shipped ∈ ShippedTemplate.all,
      neglected.differsFromShipped 7 shipped = (shipped.id == "story-turn") := by
    intro shipped hshipped
    rw [differsFromShipped, template?_neglected hshipped]
    by_cases hid : shipped.id = "story-turn"
    · have hhash := contentHash_ne_of_odd shipped.content (by decide : "stale".length % 2 = 1)
      simp [hid, hhash.symm]
    · simp [hid]
  have hcount : ShippedTemplate.all.countP (·.id == "story-turn") = 1 := by decide +kernel
  rw [← hcount]
  apply List.countP_congr
  intro shipped hshipped
  rw [hdiffers shipped hshipped]

/-- A default pack with one template, which is also out of date, gets all the
    others and this one anew, and its variable stays. -/
theorem seed_repairs_neglected : ∃ after,
    seed neglected = .ok (⟨7, false, ShippedTemplate.all.length - 1, 1⟩, after) ∧
      after.packs = neglected.packs ∧ after.variables = neglected.variables ∧
      (∃ row, after.template? 7 "story-turn" = some row ∧ row.content ≠ "Go on.") ∧
      seed after = .ok (⟨7, false, 0, 0⟩, after) := by
  obtain ⟨⟨packId, created, inserted, refreshed⟩, after, hrun, -, hrepairs, hagain⟩ :=
    valid_neglected.seed_repairs
  have hdefault : ∀ pack ∈ neglected.packs, pack.isDefault = true ↔ pack.id = 7 := by
    decide +kernel
  obtain ⟨hcreated, hpacks, pack, hpack, hisDefault, hid⟩ :=
    hrepairs.default.resolve_right fun hnew => by
      obtain ⟨-, hnone, -⟩ := hnew
      simp [neglected] at hnone
  obtain rfl : packId = 7 := hid.symm.trans ((hdefault pack hpack).1 hisDefault)
  obtain rfl : created = false := hcreated
  have hinserted : inserted = _ := hrepairs.inserted.trans lacksShipped_neglected
  have hrefreshed : refreshed = _ := hrepairs.refreshed.trans differsFromShipped_neglected
  rw [hinserted, hrefreshed] at hrun
  obtain ⟨shipped, hshipped, hname, hcontent⟩ : ∃ shipped ∈ ShippedTemplate.all,
      shipped.id = "story-turn" ∧ shipped.content ≠ "Go on." := by decide +kernel
  obtain ⟨row, hrow, hsame, hkept⟩ := hrepairs.settles shipped hshipped
  have hfound : after.template? 7 "story-turn" = some row := hname ▸ hrow
  refine ⟨after, hrun, hpacks, hrepairs.variables, ⟨row, hfound, ?_⟩, hagain⟩
  obtain hkept | ⟨-, rfl⟩ := hkept
  · have hstale : neglected.template? 7 shipped.id = some row := hkept
    rw [template?_neglected hshipped, if_pos hname, Option.some.injEq] at hstale
    rw [← hstale] at hsame
    exact absurd hsame.symm (contentHash_ne_of_odd shipped.content (by decide))
  · exact hcontent

end Tables

end PromptPacks
