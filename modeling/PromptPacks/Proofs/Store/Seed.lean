import PromptPacks.Proofs.Store.Exchange
import PromptPacks.Store.Seed

namespace PromptPacks

open PromptPacks.Digest PromptPacks.Store PromptPacks.Transaction

namespace ShippedTemplate

def row (shipped : ShippedTemplate) (packId : Int) : PackTemplate :=
  ⟨packId, shipped.id, shipped.content, contentHash shipped.content⟩

/-- The identifiers of the shipped templates are distinct. -/
theorem nodup_ids : (all.map (·.id)).Nodup := by
  decide +kernel

/-- The shipped templates have distinct keys in every pack. -/
theorem nodup_keys (packId : Int) : ((all.map (·.row packId)).map PackTemplate.key).Nodup := by
  rw [List.map_map]
  exact List.Nodup.of_map Prod.snd (by rw [List.map_map]; exact nodup_ids)

end ShippedTemplate

namespace Tables

/-- The tables with a template in its pack, unless the one with the same
    identifier has the same hash. -/
def refresh (tables : Tables) (row : PackTemplate) : Tables :=
  if (tables.template? row.packId row.templateId).map (·.hash) = some row.hash then tables
  else tables.put row

/-- The tables with some templates refreshed, one after the other. -/
def refreshAll (tables : Tables) (rows : List PackTemplate) : Tables :=
  rows.foldl refresh tables

variable {tables : Tables} {row other : PackTemplate} {rows : List PackTemplate} {packId : Int}
  {templateId : String}

/-- A template with the same hash is left as it is. -/
theorem refresh_of_eq
    (hhash : (tables.template? row.packId row.templateId).map (·.hash) = some row.hash) :
    tables.refresh row = tables :=
  if_pos hhash

/-- A template with another hash, or none at all, is put. -/
theorem refresh_of_ne
    (hhash : (tables.template? row.packId row.templateId).map (·.hash) ≠ some row.hash) :
    tables.refresh row = tables.put row :=
  if_neg hhash

@[simp]
theorem refreshAll_cons :
    tables.refreshAll (row :: rows) = (tables.refresh row).refreshAll rows := rfl

@[simp]
theorem packs_refresh : (tables.refresh row).packs = tables.packs := by
  unfold refresh
  split <;> rfl

@[simp]
theorem variables_refresh : (tables.refresh row).variables = tables.variables := by
  unfold refresh
  split <;> rfl

theorem stories_refresh : (tables.refresh row).stories = tables.stories := by
  unfold refresh
  split <;> rfl

@[simp]
theorem lastPack_refresh : (tables.refresh row).lastPack = tables.lastPack := by
  unfold refresh
  split <;> rfl

@[simp]
theorem packs_refreshAll : (tables.refreshAll rows).packs = tables.packs := by
  induction rows generalizing tables with
  | nil => rfl
  | cons row rows ih => exact ih.trans packs_refresh

@[simp]
theorem variables_refreshAll : (tables.refreshAll rows).variables = tables.variables := by
  induction rows generalizing tables with
  | nil => rfl
  | cons row rows ih => exact ih.trans variables_refresh

theorem stories_refreshAll : (tables.refreshAll rows).stories = tables.stories := by
  induction rows generalizing tables with
  | nil => rfl
  | cons row rows ih => exact ih.trans stories_refresh

@[simp]
theorem lastPack_refreshAll : (tables.refreshAll rows).lastPack = tables.lastPack := by
  induction rows generalizing tables with
  | nil => rfl
  | cons row rows ih => exact ih.trans lastPack_refresh

/-- Refreshing a template neither adds nor removes a pack. -/
theorem hasPack_refresh :
    (tables.refresh row).HasPack packId ↔ tables.HasPack packId := by
  rw [HasPack, packs_refresh, HasPack]

/-- A refreshed template is found under its own key only. -/
theorem template?_refresh_of_ne (hother : row.key ≠ (packId, templateId)) :
    (tables.refresh row).template? packId templateId = tables.template? packId templateId := by
  unfold refresh
  split
  · rfl
  · exact template?_put_of_ne hother

/-- The same for any number of them. -/
theorem template?_refreshAll_of_ne (hothers : ∀ row ∈ rows, row.key ≠ (packId, templateId)) :
    (tables.refreshAll rows).template? packId templateId =
      tables.template? packId templateId := by
  induction rows generalizing tables with
  | nil => rfl
  | cons row rows ih =>
    obtain ⟨hother, hothers⟩ := List.forall_mem_cons.1 hothers
    rw [refreshAll_cons, ih hothers, template?_refresh_of_ne hother]

/-- Refreshed templates are not seen where templates with their keys are not
    looked at. -/
theorem filter_refreshAll {looks : PackTemplate → Bool}
    (hlooks : ∀ other : PackTemplate, other.key ∈ rows.map PackTemplate.key → looks other = false) :
    (tables.refreshAll rows).templates.filter looks = tables.templates.filter looks := by
  induction rows generalizing tables with
  | nil => rfl
  | cons row rows ih =>
    rw [refreshAll_cons, ih fun other hkey => hlooks other (List.mem_cons_of_mem _ hkey)]
    unfold refresh
    split
    · rfl
    · apply filter_put
      intro other hkey
      exact hlooks other (hkey ▸ List.mem_cons_self)

/-- A template after a refreshing is the given one or an old one. -/
theorem mem_templates_refresh (hmem : other ∈ (tables.refresh row).templates) :
    other = row ∨ other ∈ tables.templates := by
  unfold refresh at hmem
  split at hmem
  · exact .inr hmem
  · exact (mem_templates_put.1 hmem).imp_right And.left

/-- The same for any number of templates. -/
theorem mem_templates_refreshAll (hmem : other ∈ (tables.refreshAll rows).templates) :
    other ∈ rows ∨ other ∈ tables.templates := by
  induction rows generalizing tables with
  | nil => exact .inr hmem
  | cons row rows ih =>
    obtain hmem | hmem := ih hmem
    · exact .inl (List.mem_cons_of_mem row hmem)
    · obtain rfl | hmem := mem_templates_refresh hmem
      · exact .inl List.mem_cons_self
      · exact .inr hmem

/-- Templates that the tables have with the same hashes need no refreshing. -/
theorem refreshAll_of_held (hheld : ∀ row ∈ rows,
    (tables.template? row.packId row.templateId).map (·.hash) = some row.hash) :
    tables.refreshAll rows = tables := by
  induction rows with
  | nil => rfl
  | cons row rows ih =>
    obtain ⟨hrow, hrows⟩ := List.forall_mem_cons.1 hheld
    rw [refreshAll_cons, refresh_of_eq hrow, ih hrows]

/-- Templates with different keys can be compared with the tables as they are at
    first: those that are put on the way are not seen by the others. -/
theorem refreshAll_eq_putAll (hkeys : (rows.map PackTemplate.key).Nodup) :
    tables.refreshAll rows = tables.putAll (rows.filter fun row =>
      (tables.template? row.packId row.templateId).map (·.hash) != some row.hash) := by
  induction rows generalizing tables with
  | nil => rfl
  | cons row rows ih =>
    obtain ⟨hkey, hkeys⟩ := List.nodup_cons.1 hkeys
    rw [refreshAll_cons, ih hkeys]
    by_cases hhash : (tables.template? row.packId row.templateId).map (·.hash) = some row.hash
    · rw [refresh_of_eq hhash, List.filter_cons_of_neg (by simp [hhash])]
    · rw [refresh_of_ne hhash, List.filter_cons_of_pos (by simpa using hhash), putAll_cons]
      congr 1
      refine List.filter_congr fun other hother => ?_
      rw [template?_put_of_ne]
      exact fun hsame => hkey (hsame ▸ List.mem_map_of_mem hother)

/-- Templates with new keys are put where they are missing, all of them behind
    the others. -/
theorem refreshAll_of_fresh (hkeys : (rows.map PackTemplate.key).Nodup)
    (hfresh : ∀ row ∈ rows, row.key ∉ tables.templates.map PackTemplate.key) :
    tables.refreshAll rows = tables.putAll rows := by
  rw [refreshAll_eq_putAll hkeys, List.filter_eq_self.2]
  intro row hrow
  rw [template?_eq_none.2 (hfresh row hrow)]
  rfl

/-- Refreshing a template keeps the constraints, if its pack exists. -/
theorem Valid.refresh (hvalid : tables.Valid) (hpack : tables.HasPack row.packId) :
    (tables.refresh row).Valid := by
  unfold Tables.refresh
  split
  · exact hvalid
  · exact hvalid.put hpack

/-- Refreshing any number of templates keeps the constraints. -/
theorem Valid.refreshAll (hvalid : tables.Valid)
    (hpacks : ∀ row ∈ rows, tables.HasPack row.packId) : (tables.refreshAll rows).Valid := by
  induction rows generalizing tables with
  | nil => exact hvalid
  | cons row rows ih =>
    obtain ⟨hpack, hpacks⟩ := List.forall_mem_cons.1 hpacks
    exact ih (hvalid.refresh hpack) fun other hother => hasPack_refresh.2 (hpacks other hother)

/-- A pack has no template for a shipped one. -/
def lacksShipped (tables : Tables) (packId : Int) (shipped : ShippedTemplate) : Bool :=
  (tables.template? packId shipped.id).isNone

/-- The template of a pack for a shipped one has another hash. -/
def differsFromShipped (tables : Tables) (packId : Int) (shipped : ShippedTemplate) : Bool :=
  (tables.template? packId shipped.id).any (·.hash != contentHash shipped.content)

end Tables

namespace Store

variable {tables : Tables} {report : SeedReport}

/-- A report that also tells of some more shipped templates. -/
def SeedReport.extended (report : SeedReport) (tables : Tables) (shipped : List ShippedTemplate) :
    SeedReport :=
  { report with
    inserted := report.inserted + shipped.countP (tables.lacksShipped report.packId)
    refreshed := report.refreshed + shipped.countP (tables.differsFromShipped report.packId) }

/-- A report can be made template by template, since settling one of them does
    not change what is found under the identifiers of the others. -/
theorem SeedReport.extended_cons {first : ShippedTemplate} {rest : List ShippedTemplate}
    {after : Tables} (hsame : ∀ other ∈ rest,
      after.template? report.packId other.id = tables.template? report.packId other.id) :
    (report.extended tables [first]).extended after rest =
      report.extended tables (first :: rest) := by
  have hmissing : rest.countP (after.lacksShipped report.packId) =
      rest.countP (tables.lacksShipped report.packId) := by
    apply List.countP_congr
    intro other hother
    rw [Tables.lacksShipped, hsame other hother, Tables.lacksShipped]
  have hdiffering : rest.countP (after.differsFromShipped report.packId) =
      rest.countP (tables.differsFromShipped report.packId) := by
    apply List.countP_congr
    intro other hother
    rw [Tables.differsFromShipped, hsame other hother, Tables.differsFromShipped]
  simp only [extended, hmissing, hdiffering, List.countP_cons, List.countP_nil, SeedReport.mk.injEq,
    true_and]
  omega

/-- One template of the default pack is settled, and the report tells of it. The
    three cases of the code come to one refreshing. -/
theorem seedTemplate_eq_ok (hpack : tables.HasPack report.packId) (shipped : ShippedTemplate) :
    seedTemplate report shipped tables =
      .ok (report.extended tables [shipped], tables.refresh (shipped.row report.packId)) := by
  apply Outcome.eq_ok
  rw [seedTemplate, outcome_bind, outcome_ask]
  unfold SeedReport.extended Tables.lacksShipped Tables.differsFromShipped
  cases hfound : tables.template? report.packId shipped.id with
  | none =>
    rw [Tables.refresh_of_ne (by simp [ShippedTemplate.row, hfound])]
    simp only [outcome_bind, outcome_putTemplate hpack, outcome_pure]
    exact ⟨by simp [hfound], rfl⟩
  | some existing =>
    rw [outcome_ite]
    refine ⟨fun hhash => ?_, fun hhash => ?_⟩
    · rw [Tables.refresh_of_eq (by simp [ShippedTemplate.row, hfound, hhash])]
      exact ⟨by simp [hfound, hhash], rfl⟩
    · rw [Tables.refresh_of_ne (by simpa [ShippedTemplate.row, hfound] using hhash)]
      simp only [outcome_bind, outcome_putTemplate hpack, outcome_pure]
      exact ⟨by simp [hfound, hhash], rfl⟩

/-- Each shipped template is counted by what the tables had for it at first, as
    those before it are under other keys. -/
theorem foldlM_seedTemplate_eq_ok {shipped : List ShippedTemplate}
    (hpack : tables.HasPack report.packId) (hids : (shipped.map (·.id)).Nodup) :
    shipped.foldlM seedTemplate report tables =
      .ok (report.extended tables shipped,
        tables.refreshAll (shipped.map (·.row report.packId))) := by
  induction shipped generalizing report tables with
  | nil => rfl
  | cons first rest ih =>
    obtain ⟨hid, hids⟩ := List.nodup_cons.1 hids
    have hsame : ∀ other ∈ rest, (tables.refresh (first.row report.packId)).template?
        report.packId other.id = tables.template? report.packId other.id := by
      intro other hother
      apply Tables.template?_refresh_of_ne
      intro hkey
      have heq : first.id = other.id := congrArg Prod.snd hkey
      exact hid (List.mem_map.2 ⟨other, hother, heq.symm⟩)
    have hrest := @ih (tables.refresh (first.row report.packId)) (report.extended tables [first])
      (Tables.hasPack_refresh.2 hpack) hids
    rw [List.foldlM_cons, bind_eq_of_ok (seedTemplate_eq_ok hpack first), hrest,
      SeedReport.extended_cons hsame]
    rfl

end Store

namespace Tables

/-- The tables with which a seeding goes on once it has a default pack: those
    that it found, or the same with a new pack under the first free name. -/
inductive StartsWith (tables : Tables) : Pack → Bool → Tables → Prop where
  | found {pack : Pack} (hdefault : tables.defaultPack? = some pack) :
    StartsWith tables pack false tables
  | created {name : String} (hnone : tables.defaultPack? = none)
    (hname : IsFirstFree defaultPackName tables.packNames name) :
    StartsWith tables ⟨tables.lastPack + 1, name, some defaultPackDescription, none, true⟩ true
      (tables.addPack name (some defaultPackDescription) none true)

namespace StartsWith

variable {tables start : Tables} {pack : Pack} {created : Bool}

theorem valid (hstart : tables.StartsWith pack created start) (hvalid : tables.Valid) :
    start.Valid := by
  cases hstart with
  | found => exact hvalid
  | created hnone hname =>
    apply hvalid.addPack _ fun _ => hnone
    rw [packNamed?_eq_none]
    exact fun other hother hsame => hname.1 (mem_packNames.2 ⟨other, hother, hsame⟩)

theorem mem (hstart : tables.StartsWith pack created start) : pack ∈ start.packs := by
  cases hstart with
  | found hdefault => exact (defaultPack?_eq_some hdefault).1
  | created => exact List.mem_append_right _ List.mem_cons_self

theorem hasPack (hstart : tables.StartsWith pack created start) : start.HasPack pack.id :=
  ⟨pack, hstart.mem, rfl⟩

theorem hasPack_rows (hstart : tables.StartsWith pack created start)
    (shipped : List ShippedTemplate) :
    ∀ row ∈ shipped.map (·.row pack.id), start.HasPack row.packId := by
  intro row hrow
  obtain ⟨template, -, rfl⟩ := List.mem_map.1 hrow
  exact hstart.hasPack

theorem isDefault (hstart : tables.StartsWith pack created start) : pack.isDefault = true := by
  cases hstart with
  | found hdefault => exact (defaultPack?_eq_some hdefault).2
  | created => rfl

theorem templates_eq (hstart : tables.StartsWith pack created start) :
    start.templates = tables.templates := by
  cases hstart <;> rfl

theorem variables_eq (hstart : tables.StartsWith pack created start) :
    start.variables = tables.variables := by
  cases hstart <;> rfl

theorem stories_eq (hstart : tables.StartsWith pack created start) :
    start.stories = tables.stories := by
  cases hstart <;> rfl

end StartsWith

end Tables

namespace Store

variable {tables start : Tables} {pack : Pack} {created : Bool}

/-- A seeding always has a default pack to work on: the one that is there, or
    one that can be added as its name is made to be free. -/
theorem exists_defaultOrNew_eq_ok (tables : Tables) : ∃ pack created start,
    defaultOrNew tables = .ok ((pack, created), start) ∧
      tables.StartsWith pack created start := by
  cases hdefault : tables.defaultPack? with
  | some pack =>
    refine ⟨pack, false, tables, ?_, .found hdefault⟩
    apply Outcome.eq_ok
    rw [defaultOrNew, outcome_bind, outcome_ask, hdefault]
    exact ⟨rfl, rfl⟩
  | none =>
    refine ⟨_, true, _, ?_, .created hdefault isFirstFree_uniqueName⟩
    apply Outcome.eq_ok
    have hname : tables.packNamed? (uniqueName defaultPackName tables.packNames) = none :=
      Tables.packNamed?_uniqueName
    simp only [defaultOrNew, outcome_bind, outcome_ask, hdefault, outcome_pure]
    rw [outcome_add_insertPack? hname fun _ => hdefault]
    exact ⟨rfl, rfl⟩

/-- From there on a seeding refreshes all shipped templates, and it cannot
    fail. -/
theorem seed_eq_ok (hrun : defaultOrNew tables = .ok ((pack, created), start))
    (hpack : start.HasPack pack.id) :
    seed tables =
      .ok ((⟨pack.id, created, 0, 0⟩ : SeedReport).extended start ShippedTemplate.all,
        start.refreshAll (ShippedTemplate.all.map (·.row pack.id))) := by
  rw [seed, bind_eq_of_ok hrun]
  exact @foldlM_seedTemplate_eq_ok start ⟨pack.id, created, 0, 0⟩ _ hpack ShippedTemplate.nodup_ids

/-- Seeding never fails. It brings the default pack in line with the shipped
    templates, and creates it first if there is none. -/
theorem seed_spec (hvalid : tables.Valid) :
    seed.Outcome tables (fun _ => False) fun report after =>
      ∃ pack start, report.packId = pack.id ∧
        ((report.createdPack = false ∧ tables.defaultPack? = some pack ∧ start = tables) ∨
          (report.createdPack = true ∧ tables.defaultPack? = none ∧
            pack = ⟨tables.lastPack + 1, uniqueName defaultPackName tables.packNames,
              some defaultPackDescription, none, true⟩ ∧
            start = tables.addPack pack.name pack.description pack.author true)) ∧
        after = start.refreshAll (ShippedTemplate.all.map (·.row pack.id)) ∧ after.Valid := by
  obtain ⟨pack, created, start, hrun, hstart⟩ := exists_defaultOrNew_eq_ok tables
  have hafter := (hstart.valid hvalid).refreshAll (hstart.hasPack_rows ShippedTemplate.all)
  rw [Transaction.Outcome, seed_eq_ok hrun hstart.hasPack]
  refine ⟨pack, start, rfl, ?_, rfl, hafter⟩
  cases hstart with
  | found hdefault => exact .inl ⟨rfl, hdefault, rfl⟩
  | created hnone hname =>
    obtain rfl := hname.unique isFirstFree_uniqueName
    exact .inr ⟨rfl, hnone, rfl, rfl⟩

end Store

end PromptPacks
