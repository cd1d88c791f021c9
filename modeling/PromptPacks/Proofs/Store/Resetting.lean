import PromptPacks.Proofs.Store.Contents
import PromptPacks.Proofs.Store.Export
import PromptPacks.Proofs.Store.Repair

namespace PromptPacks

open PromptPacks.Digest PromptPacks.Store PromptPacks.Transaction

namespace Tables

variable {tables after : Tables} {packId source : Int}

/-- The hashes of the templates of a pack, each beside its identifier. -/
def hashesOf (tables : Tables) (packId : Int) : List (String × String) :=
  (tables.templatesOf packId).map fun row => (row.templateId, row.hash)

/-- An identifier and a hash stand together exactly where a search for the
    identifier finds the hash. -/
theorem Valid.mem_hashesOf (hvalid : tables.Valid) {entry : String × String} :
    entry ∈ tables.hashesOf packId ↔
      (tables.template? packId entry.1).map (·.hash) = some entry.2 := by
  obtain ⟨templateId, hash⟩ := entry
  simp only [hashesOf, List.mem_map, mem_templatesOf, Option.map_eq_some_iff,
    hvalid.template?_eq_some_iff, PackTemplate.key, Prod.mk.injEq]
  constructor
  · rintro ⟨row, ⟨hrow, hpack⟩, hid, hhash⟩
    exact ⟨row, ⟨hrow, hpack, hid⟩, hhash⟩
  · rintro ⟨row, ⟨hrow, hpack, hid⟩, hhash⟩
    exact ⟨row, ⟨hrow, hpack⟩, hid, hhash⟩

/-- No identifier is listed twice with its hash. -/
theorem Valid.nodup_hashesOf (hvalid : tables.Valid) (packId : Int) :
    ((tables.hashesOf packId).map Prod.fst).Nodup := by
  rw [hashesOf, List.map_map]
  exact hvalid.nodup_templateIds packId

/-- The hashes of a pack are known by what a search for each identifier finds,
    so two states are compared identifier by identifier. -/
theorem Valid.hashesOf_congr (hvalid : tables.Valid) (hafter : after.Valid)
    (hsame : ∀ id, (after.template? packId id).map (·.hash) =
      (tables.template? packId id).map (·.hash)) :
    after.hashesOf packId = tables.hashesOf packId := by
  have hmem : ∀ entry, entry ∈ after.hashesOf packId ↔ entry ∈ tables.hashesOf packId := by
    intro entry
    rw [hafter.mem_hashesOf, hvalid.mem_hashesOf, hsame]
  have hperm : (after.hashesOf packId).Perm (tables.hashesOf packId) :=
    (List.perm_ext_iff_of_nodup (hafter.nodup_hashesOf packId).of_map
      (hvalid.nodup_hashesOf packId).of_map).2 hmem
  have hsorted : ∀ tables : Tables, (tables.hashesOf packId).Pairwise fun a b => a.1 ≤ b.1 :=
    fun tables => List.pairwise_map.2 pairwise_templatesOf
  refine hperm.eq_of_pairwise (fun a b ha hb hab hba => ?_) (hsorted after) (hsorted tables)
  exact List.inj_on_of_nodup_map (hvalid.nodup_hashesOf packId) ((hmem a).1 ha) hb
    (String.le_antisymm hab hba)

/-- What the hashes of a pack say about its templates, compared with those of
    another pack. -/
def statusesOf (tables : Tables) (source packId : Int) : List (String × TemplateStatus) :=
  (tables.hashesOf packId).map fun entry =>
    (entry.1, .ofHashes entry.2 ((tables.template? source entry.1).map (·.hash)))

/-- A template counts as unmodified exactly if both packs have it, with the same
    hash. -/
theorem Valid.mem_statusesOf_unmodified (hvalid : tables.Valid) {templateId : String} :
    (templateId, .unmodified) ∈ tables.statusesOf source packId ↔
      ∃ hash, (tables.template? packId templateId).map (·.hash) = some hash ∧
        (tables.template? source templateId).map (·.hash) = some hash := by
  simp only [statusesOf, List.mem_map, Prod.exists, Prod.mk.injEq, hvalid.mem_hashesOf,
    TemplateStatus.ofHashes, ite_eq_left_iff, reduceCtorEq, imp_false, not_not]
  constructor
  · rintro ⟨id, hash, hown, rfl, hsource⟩
    exact ⟨hash, hown, hsource⟩
  · rintro ⟨hash, hown, hsource⟩
    exact ⟨templateId, hash, hown, rfl, hsource⟩

/-- A pack has come in line with another one, which is as it was: it has the
    hashes of the other one, and those that it had before where the other one
    has no template. -/
structure Aligns (tables after : Tables) (source packId : Int) : Prop where
  kept : ∀ id, after.template? source id = tables.template? source id
  hashes : ∀ id, (after.template? packId id).map (·.hash) =
    ((tables.template? source id).or (tables.template? packId id)).map (·.hash)

/-- A search in another pack does not see what is moved. -/
theorem key_ne_of_packId_ne {rows : List PackTemplate} (hother : packId ≠ source) (id : String) :
    ∀ row ∈ rows.map (·.moved packId), row.key ≠ (source, id) := by
  intro row hrow hkey
  obtain ⟨other, -, rfl⟩ := List.mem_map.1 hrow
  exact hother (congrArg Prod.fst hkey)

/-- A search under an identifier that a pack lacks does not see what is moved
    from it, so templates of a pack's own are not touched. -/
theorem key_ne_of_template?_eq_none {rows : List PackTemplate} {templateId : String}
    (hrows : ∀ row ∈ rows, row ∈ tables.templates ∧ row.packId = source)
    (hnone : tables.template? source templateId = none) :
    ∀ row ∈ rows.map (·.moved packId), row.key ≠ (packId, templateId) := by
  intro row hrow hkey
  obtain ⟨other, hother, rfl⟩ := List.mem_map.1 hrow
  obtain ⟨hmem, rfl⟩ := hrows other hother
  obtain rfl : other.templateId = templateId := congrArg Prod.snd hkey
  exact template?_eq_none.1 hnone (List.mem_map_of_mem hmem)

/-- The templates of one pack, put into another one in any order, bring it in
    line. Repetitions do no harm either, as only membership is asked for. -/
theorem Valid.aligns_putAll (hvalid : tables.Valid) (hpack : tables.HasPack packId)
    (hother : packId ≠ source) {rows : List PackTemplate}
    (hrows : ∀ row, row ∈ rows ↔ row ∈ tables.templates ∧ row.packId = source) :
    tables.Aligns (tables.putAll (rows.map (·.moved packId))) source packId := by
  have hsame : ∀ a ∈ rows.map (·.moved packId), ∀ b ∈ rows.map (·.moved packId),
      a.key = b.key → a = b := by
    intro a ha b hb hkey
    obtain ⟨first, hfirst, rfl⟩ := List.mem_map.1 ha
    obtain ⟨second, hsecond, rfl⟩ := List.mem_map.1 hb
    obtain ⟨hfirst, howner⟩ := (hrows first).1 hfirst
    obtain ⟨hsecond, rfl⟩ := (hrows second).1 hsecond
    rw [hvalid.template_eq_of_id hfirst hsecond howner (congrArg Prod.snd hkey)]
  refine ⟨fun id => template?_putAll_of_ne (key_ne_of_packId_ne hother id), fun id => ?_⟩
  cases hfound : tables.template? source id with
  | none =>
    rw [template?_putAll_of_ne (key_ne_of_template?_eq_none (fun row => (hrows row).1) hfound),
      Option.none_or]
  | some row =>
    obtain ⟨hmem, howner, rfl⟩ := template?_eq_some hfound
    have hmoved := List.mem_map_of_mem (f := (·.moved packId)) ((hrows row).2 ⟨hmem, howner⟩)
    exact congrArg (Option.map (·.hash))
      (hvalid.template?_putAll (hasPack_of_mem_moved hpack) hsame hmoved)

/-- The templates of a pack are different ones in any other pack. -/
theorem Valid.nodup_keys_moved (hvalid : tables.Valid) (source packId : Int) :
    (((tables.templatesOf source).map (·.moved packId)).map PackTemplate.key).Nodup := by
  refine List.Nodup.of_map Prod.snd ?_
  rw [List.map_map, List.map_map]
  exact hvalid.nodup_templateIds source

/-- Refreshing settles each template of a pack in the other one. -/
theorem Valid.settles_moved (hvalid : tables.Valid) (hpack : tables.HasPack packId)
    {row : PackTemplate} (hrow : row ∈ tables.templates) (howner : row.packId = source) :
    tables.Settles (tables.refreshAll ((tables.templatesOf source).map (·.moved packId)))
      (row.moved packId) :=
  hvalid.settles_refreshAll (hasPack_of_mem_moved hpack) (hvalid.nodup_keys_moved source packId)
    (List.mem_map_of_mem (mem_templatesOf.2 ⟨hrow, howner⟩))

/-- Where the hashes agree already, a template need not be put to bring a pack
    in line. -/
theorem Valid.aligns_refreshAll (hvalid : tables.Valid) (hpack : tables.HasPack packId)
    (hother : packId ≠ source) :
    tables.Aligns (tables.refreshAll ((tables.templatesOf source).map (·.moved packId))) source
      packId := by
  refine ⟨fun id => template?_refreshAll_of_ne (key_ne_of_packId_ne hother id), fun id => ?_⟩
  cases hfound : tables.template? source id with
  | none =>
    rw [template?_refreshAll_of_ne (key_ne_of_template?_eq_none (fun row => mem_templatesOf.1)
      hfound), Option.none_or]
  | some row =>
    obtain ⟨hmem, howner, rfl⟩ := template?_eq_some hfound
    obtain ⟨kept, hkept, hhash, -⟩ := hvalid.settles_moved hpack hmem howner
    exact Option.map_eq_some_iff.2 ⟨kept, hkept, hhash⟩

namespace Aligns

variable {later : Tables} (haligns : tables.Aligns after source packId) (hafter : after.Valid)

include haligns hafter

/-- Among the templates of a pack in line, those that the other pack has count
    as unmodified, and no others do. -/
theorem mem_statusesOf_unmodified {templateId : String} :
    (templateId, .unmodified) ∈ after.statusesOf source packId ↔
      (source, templateId) ∈ tables.templates.map PackTemplate.key := by
  rw [hafter.mem_statusesOf_unmodified, haligns.hashes, haligns.kept]
  cases hfound : tables.template? source templateId with
  | none => simpa using template?_eq_none.1 hfound
  | some row =>
    obtain ⟨hmem, rfl, rfl⟩ := template?_eq_some hfound
    exact iff_of_true ⟨row.hash, rfl, rfl⟩ (List.mem_map_of_mem hmem)

/-- A pack in line has nothing that differs, so a further reset has nothing to
    do. -/
theorem differing_eq_nil : after.differing source packId = [] := by
  rw [differing, List.filter_eq_nil_iff]
  intro row hrow
  obtain ⟨hmem, rfl⟩ := mem_templatesOf.1 hrow
  have hbaseline := haligns.kept row.templateId
  rw [hafter.template?_of_mem hmem] at hbaseline
  rw [haligns.hashes, ← hbaseline]
  simp

/-- However a pack has come in line, its hashes are the same. This is why the
    order of single resets does not matter. -/
theorem hashesOf_eq (hother : tables.Aligns later source packId) (hlater : later.Valid) :
    later.hashesOf packId = after.hashesOf packId :=
  hafter.hashesOf_congr hlater fun id => by rw [hother.hashes, haligns.hashes]

/-- However a pack has come in line, its statuses are the same. -/
theorem statusesOf_eq (hother : tables.Aligns later source packId) (hlater : later.Valid) :
    later.statusesOf source packId = after.statusesOf source packId := by
  rw [statusesOf, haligns.hashesOf_eq hafter hother hlater, statusesOf]
  simp only [hother.kept, haligns.kept]

end Aligns

/-- A pack lacks a template of another one, or has it with another hash. -/
def NeedsReset (tables : Tables) (packId : Int) (row : PackTemplate) : Prop :=
  (packId, row.templateId) ∉ tables.templates.map PackTemplate.key ∨
    ∃ own ∈ tables.templates, own.key = (packId, row.templateId) ∧ own.hash ≠ row.hash

instance (tables : Tables) (packId : Int) (row : PackTemplate) :
    Decidable (tables.NeedsReset packId row) :=
  inferInstanceAs (Decidable (_ ∨ ∃ own ∈ tables.templates, _))

/-- A template is to be reset exactly if a search finds none under its
    identifier or one with another hash. -/
theorem Valid.needsReset_iff (hvalid : tables.Valid) {row : PackTemplate} :
    tables.NeedsReset packId row ↔
      (tables.template? packId row.templateId).map (·.hash) ≠ some row.hash := by
  cases hfound : tables.template? packId row.templateId with
  | none => exact iff_of_true (.inl (template?_eq_none.1 hfound)) (by simp)
  | some own =>
    obtain ⟨hmem, hkey⟩ := hvalid.template?_eq_some_iff.1 hfound
    rw [NeedsReset, or_iff_right (fun hlacks => hlacks (hkey ▸ List.mem_map_of_mem hmem))]
    constructor
    · rintro ⟨other, hother, hsame, hhash⟩
      obtain rfl := List.inj_on_of_nodup_map hvalid.templateKeys hother hmem (hsame.trans hkey.symm)
      simpa using hhash
    · intro hhash
      exact ⟨own, hmem, hkey, by simpa using hhash⟩

/-- A template of a pack under an identifier that another pack has as well. -/
def IsShared (tables : Tables) (source packId : Int) (row : PackTemplate) : Prop :=
  row.packId = packId ∧ (source, row.templateId) ∈ tables.templates.map PackTemplate.key

instance (tables : Tables) (source packId : Int) (row : PackTemplate) :
    Decidable (tables.IsShared source packId row) :=
  inferInstanceAs (Decidable (_ ∧ _))

/-- What a reset of all templates of a pack does to the tables: each template of
    the default pack that is missing or has another hash is put there as it is,
    those with the right hash stay, and all else is as it was. -/
structure HoldsReset (tables : Tables) (source packId : Int) (count : Nat) (after : Tables) :
    Prop where
  count : count = tables.templates.countP fun row =>
    row.packId = source ∧ tables.NeedsReset packId row
  settles : ∀ row ∈ tables.templates, row.packId = source →
    tables.Settles after (row.moved packId)
  others : after.templates.filter (¬tables.IsShared source packId ·) =
    tables.templates.filter (¬tables.IsShared source packId ·)
  packs : after.packs = tables.packs
  «variables» : after.variables = tables.variables
  stories : after.stories = tables.stories

/-- The number of templates that differ, as a count over the rows. -/
theorem Valid.length_differing (hvalid : tables.Valid) :
    (tables.differing source packId).length = tables.templates.countP fun row =>
      row.packId = source ∧ tables.NeedsReset packId row := by
  rw [differing, ← List.countP_eq_length_filter, templatesOf_perm.countP_eq, List.countP_filter]
  refine List.countP_congr fun row _ => ?_
  simp [hvalid.needsReset_iff, and_comm]

/-- Whether a template differs can be told beforehand, as each of them is put on
    its own and none of them has the key of another. -/
theorem Valid.putAll_differing (hvalid : tables.Valid) :
    tables.putAll ((tables.differing source packId).map (·.moved packId)) =
      tables.refreshAll ((tables.templatesOf source).map (·.moved packId)) := by
  rw [refreshAll_eq_putAll (hvalid.nodup_keys_moved source packId), List.filter_map]
  rfl

/-- What a reset of all templates leaves, and how many it has put. Templates
    that only the pack has are among the rows that stay as they are. -/
theorem Valid.holdsReset (hvalid : tables.Valid) (hpack : tables.HasPack packId) :
    tables.HoldsReset source packId (tables.differing source packId).length
      (tables.refreshAll ((tables.templatesOf source).map (·.moved packId))) where
  count := hvalid.length_differing
  settles row hrow howner := hvalid.settles_moved hpack hrow howner
  others := by
    apply filter_refreshAll
    intro other hkey
    rw [List.map_map] at hkey
    obtain ⟨row, hrow, hsame⟩ := List.mem_map.1 hkey
    obtain ⟨hmem, rfl⟩ := mem_templatesOf.1 hrow
    have howner : packId = other.packId := congrArg Prod.fst hsame
    have hid : row.templateId = other.templateId := congrArg Prod.snd hsame
    have hshared : tables.IsShared row.packId packId other :=
      ⟨howner.symm, hid ▸ List.mem_map_of_mem hmem⟩
    simpa using hshared
  packs := packs_refreshAll
  «variables» := variables_refreshAll
  stories := stories_refreshAll

/-- Identifiers of templates that a pack has are those of some of its rows. -/
theorem exists_map_templateId_eq {ids : List String}
    (hids : ∀ id ∈ ids, (packId, id) ∈ tables.templates.map PackTemplate.key) :
    ∃ rows : List PackTemplate, rows.map (·.templateId) = ids ∧
      ∀ row ∈ rows, row ∈ tables.templates ∧ row.packId = packId := by
  induction ids with
  | nil => exact ⟨[], rfl, by simp⟩
  | cons id ids ih =>
    obtain ⟨hid, hids⟩ := List.forall_mem_cons.1 hids
    obtain ⟨row, hrow, hkey⟩ := List.mem_map.1 hid
    obtain ⟨rows, rfl, hrows⟩ := ih hids
    obtain rfl : row.templateId = id := congrArg Prod.snd hkey
    exact ⟨row :: rows, rfl, List.forall_mem_cons.2 ⟨⟨hrow, congrArg Prod.fst hkey⟩, hrows⟩⟩

/-- Rows of a pack are all of its rows if they have all of its identifiers.
    Which row belongs to an identifier is not a question, since keys are
    distinct. -/
theorem Valid.mem_of_templateId_mem (hvalid : tables.Valid) {rows : List PackTemplate}
    (hrows : ∀ row ∈ rows, row ∈ tables.templates ∧ row.packId = packId) {row : PackTemplate}
    (hrow : row ∈ tables.templates) (howner : row.packId = packId)
    (hid : row.templateId ∈ rows.map (·.templateId)) : row ∈ rows := by
  obtain ⟨other, hother, hsame⟩ := List.mem_map.1 hid
  obtain ⟨hmem, hpack⟩ := hrows other hother
  rwa [hvalid.template_eq_of_id hrow hmem (howner.trans hpack.symm) hsame.symm]

end Tables

namespace Store

/-- Resets some templates of a pack one after the other. -/
def resetEach (packId : Int) (ids : List String) : Transaction PUnit :=
  ids.forM fun id => do
    let _ ← resetTemplate packId id

section

variable {tables after : Tables} {packId : Int} {pack default : Pack}
  (hpack : tables.pack? packId = some pack) (heditable : pack.isDefault = false)
  (hdefault : tables.defaultPack? = some default)

include hpack heditable hdefault

/-- A reset of all templates of a custom pack succeeds, and it brings the pack
    in line with the default pack. -/
theorem exists_resetAll_eq_ok (hvalid : tables.Valid) (hother : packId ≠ default.id) :
    ∃ count after, resetAll packId tables = .ok (count, after) ∧
      tables.HoldsReset default.id packId count after ∧ after.Valid ∧
      tables.Aligns after default.id packId := by
  have hhas : tables.HasPack packId := Tables.hasPack_of_pack?_eq_some hpack
  have hrun := resetAll_eq_ok hpack heditable hdefault
  rw [hvalid.putAll_differing] at hrun
  exact ⟨_, _, hrun, hvalid.holdsReset hhas, hvalid.refreshAll (Tables.hasPack_of_mem_moved hhas),
    hvalid.aligns_refreshAll hhas hother⟩

/-- There is nothing left to reset in a pack in line. -/
theorem resetAll_of_aligns (hvalid : tables.Valid) {before : Tables}
    (haligns : before.Aligns tables default.id packId) :
    resetAll packId tables = .ok (0, tables) := by
  rw [resetAll_eq_ok hpack heditable hdefault, haligns.differing_eq_nil hvalid]
  rfl

/-- Single resets succeed one after the other, as each of them finds its
    baseline unchanged. -/
theorem resetEach_eq_ok (hvalid : tables.Valid) {rows : List PackTemplate}
    (hrows : ∀ row ∈ rows, row ∈ tables.templates ∧ row.packId = default.id)
    (hother : packId ≠ default.id) :
    resetEach packId (rows.map (·.templateId)) tables =
      .ok ((), tables.putAll (rows.map (·.moved packId))) := by
  apply Outcome.eq_ok
  rw [resetEach, forM_map, outcome_forM (fun tables row => tables.put (row.moved packId))
    (fun next => next.pack? packId = some pack ∧ next.defaultPack? = some default ∧
      ∀ id, next.template? default.id id = tables.template? default.id id) _
    ⟨hpack, hdefault, fun _ => rfl⟩]
  · rw [Tables.putAll, List.foldl_map]
    exact ⟨rfl, rfl⟩
  · rintro row hrow next ⟨hpack, hdefault, hsame⟩
    obtain ⟨hmem, howner⟩ := hrows row hrow
    refine ⟨⟨hpack, hdefault, fun id => ?_⟩, fun success => ?_⟩
    · refine (Tables.template?_put_of_ne fun hkey => ?_).trans (hsame id)
      exact hother (congrArg Prod.fst hkey)
    · have hbaseline : next.template? default.id row.templateId = some row := by
        rw [hsame, ← howner, hvalid.template?_of_mem hmem]
      rw [outcome_bind]
      unfold Outcome
      rw [resetTemplate_eq_ok hpack heditable hdefault hbaseline]
      rfl

theorem statuses_eq_ok_statusesOf :
    statuses packId tables = .ok (tables.statusesOf default.id packId, tables) := by
  rw [statuses_eq_ok hpack heditable hdefault, Tables.statusesOf, Tables.hashesOf, List.map_map]
  rfl

/-- In whatever order the templates of the default pack are reset, the pack
    comes in line. Templates may be reset more than once. -/
theorem exists_resetEach_eq_ok (hvalid : tables.Valid) (hother : packId ≠ default.id)
    {ids : List String}
    (hids : ∀ id, id ∈ ids ↔ (default.id, id) ∈ tables.templates.map PackTemplate.key) :
    ∃ later, resetEach packId ids tables = .ok ((), later) ∧ later.packs = tables.packs ∧
      later.Valid ∧ tables.Aligns later default.id packId := by
  have hhas : tables.HasPack packId := Tables.hasPack_of_pack?_eq_some hpack
  obtain ⟨rows, rfl, hrows⟩ := Tables.exists_map_templateId_eq fun id hid => (hids id).1 hid
  refine ⟨_, resetEach_eq_ok hpack heditable hdefault hvalid hrows hother, Tables.packs_putAll _,
    hvalid.putAll (Tables.hasPack_of_mem_moved hhas),
    hvalid.aligns_putAll hhas hother fun row => ⟨hrows row, ?_⟩⟩
  rintro ⟨hrow, howner⟩
  refine hvalid.mem_of_templateId_mem hrows hrow howner ((hids _).2 ?_)
  exact howner ▸ List.mem_map_of_mem hrow

/-- A single reset is turned down for the lack of a baseline exactly if the
    default pack has none. -/
theorem nothingToReset_iff {templateId : String} :
    resetTemplate packId templateId tables = .error (.refused (.nothingToReset templateId)) ↔
      (default.id, templateId) ∉ tables.templates.map PackTemplate.key := by
  rw [← Tables.template?_eq_none]
  constructor
  · intro hrun
    by_contra hsome
    obtain ⟨baseline, hbaseline⟩ := Option.ne_none_iff_exists'.1 hsome
    cases (resetTemplate_eq_ok hpack heditable hdefault hbaseline).symm.trans hrun
  · exact resetTemplate_eq_error hpack heditable hdefault

end

end Store

namespace Reachable

variable {registry : Registry} {tables : Tables} {pack : Pack}

/-- A reset of all templates puts those of the default pack that are missing or
    have another hash, and tells how many these are. Then exactly what the
    default pack has counts as unmodified, and a second reset finds nothing to
    do. Resetting the templates one by one leads to the same hashes in any
    order, and it is turned down exactly for what the default pack lacks. A
    reset changes no pack, so that the same two are found after it. -/
theorem resetAll_resets (hreachable : Reachable registry tables) (hpack : pack ∈ tables.packs)
    (heditable : pack.isDefault = false) :
    ∃ default ∈ tables.packs, default.isDefault = true ∧ ∃ count after entries,
      resetAll pack.id tables = .ok (count, after) ∧
      tables.HoldsReset default.id pack.id count after ∧
      resetAll pack.id after = .ok (0, after) ∧
      statuses pack.id after = .ok (entries, after) ∧ (entries.map Prod.fst).Nodup ∧
      (∀ id, (id, .unmodified) ∈ entries ↔
        (default.id, id) ∈ tables.templates.map PackTemplate.key) ∧
      (∀ ids, (∀ id, id ∈ ids ↔ (default.id, id) ∈ tables.templates.map PackTemplate.key) →
        ∃ later, resetEach pack.id ids tables = .ok ((), later) ∧
          later.hashesOf pack.id = after.hashesOf pack.id ∧
          statuses pack.id later = .ok (entries, later)) ∧
      ∀ id, resetTemplate pack.id id tables = .error (.refused (.nothingToReset id)) ↔
        (default.id, id) ∉ tables.templates.map PackTemplate.key := by
  have hvalid := hreachable.valid
  obtain ⟨default, hdefault⟩ := hreachable.exists_defaultPack? hpack
  obtain ⟨hmem, hisDefault⟩ := Tables.defaultPack?_eq_some hdefault
  have hfound := hvalid.pack?_of_mem hpack
  have hhas : tables.HasPack pack.id := ⟨pack, hpack, rfl⟩
  have hother : pack.id ≠ default.id := by
    intro hid
    rw [hvalid.pack_eq_of_id hpack hmem hid, hisDefault] at heditable
    cases heditable
  have hfinds : ∀ next : Tables, next.packs = tables.packs →
      next.pack? pack.id = some pack ∧ next.defaultPack? = some default := by
    intro next hpacks
    rw [Tables.pack?, Tables.defaultPack?, hpacks]
    exact ⟨hfound, hdefault⟩
  obtain ⟨count, after, hrun, hholds, hafter, haligns⟩ :=
    exists_resetAll_eq_ok hfound heditable hdefault hvalid hother
  obtain ⟨hpackAfter, hdefaultAfter⟩ := hfinds after hholds.packs
  refine ⟨default, hmem, hisDefault, count, after, _, hrun, hholds,
    resetAll_of_aligns hpackAfter heditable hdefaultAfter hafter haligns,
    statuses_eq_ok_statusesOf hpackAfter heditable hdefaultAfter, ?_,
    fun id => haligns.mem_statusesOf_unmodified hafter, fun ids hids => ?_,
    fun id => nothingToReset_iff hfound heditable hdefault⟩
  · rw [Tables.statusesOf, List.map_map]
    exact hafter.nodup_hashesOf pack.id
  · obtain ⟨later, hlaterRun, hpacks, hlater, hlaterAligns⟩ :=
      exists_resetEach_eq_ok hfound heditable hdefault hvalid hother hids
    obtain ⟨hpackLater, hdefaultLater⟩ := hfinds later hpacks
    refine ⟨later, hlaterRun, haligns.hashesOf_eq hafter hlaterAligns hlater, ?_⟩
    rw [statuses_eq_ok_statusesOf hpackLater heditable hdefaultLater,
      haligns.statusesOf_eq hafter hlaterAligns hlater]

/-- A pack with a copy of everything in the default pack differs from it in the
    prompt that it has changed. -/
theorem needsReset_sample_iff {row : PackTemplate} (hrow : row ∈ sample.templates)
    (howner : row.packId = 1) : sample.NeedsReset 2 row ↔ row.templateId = "image-prompt" := by
  have hcopies : ∀ row ∈ sample.templates, row.packId = 1 → ∃ own ∈ sample.templates,
      own.key = (2, row.templateId) ∧
        if row.templateId = "image-prompt" then normalize own.content ≠ normalize row.content
        else own.content = row.content := by
    decide +kernel
  obtain ⟨own, hmem, hkey, hcontent⟩ := hcopies row hrow howner
  have hvalid := reachable_sample.valid
  have hhash := reachable_sample.sound.templates
  have hid : own.templateId = row.templateId := congrArg Prod.snd hkey
  rw [hvalid.needsReset_iff, hvalid.template?_eq_some_iff.2 ⟨hmem, hkey⟩, Option.map_some, ne_eq,
    Option.some.injEq, (hhash own hmem).hash, (hhash row hrow).hash]
  by_cases hchanged : row.templateId = "image-prompt"
  · rw [if_pos hchanged] at hcontent
    refine iff_of_true (fun hsame => hcontent ?_) hchanged
    exact noCollision_sample own hmem row hrow hid (contentHash_eq_iff.1 hsame)
  · rw [if_neg hchanged] at hcontent
    exact iff_of_false (fun hdiffers => hdiffers (congrArg contentHash hcontent)) hchanged

/-- Of a pack that has changed one prompt, this one is reset, by a reset of
    all templates as well as by resets of all of them in the order of the
    catalogue. -/
theorem resetAll_resets_sample : ∃ after later entries,
    resetAll 2 sample = .ok (1, after) ∧ resetAll 2 after = .ok (0, after) ∧
    resetEach 2 (ShippedTemplate.all.map (·.id)) sample = .ok ((), later) ∧
    statuses 2 after = .ok (entries, after) ∧ statuses 2 later = .ok (entries, later) ∧
    ("image-prompt", .unmodified) ∈ entries ∧
    resetTemplate 2 "own-note" sample = .error (.refused (.nothingToReset "own-note")) := by
  have hpack : ⟨2, "Custom", none, none, false⟩ ∈ sample.packs := by decide +kernel
  obtain ⟨default, hmem, hisDefault, count, after, entries, hrun, hholds, hagain, hstatuses, -,
    hunmodified, heach, hnothing⟩ := reachable_sample.resetAll_resets hpack rfl
  have hids : ∀ pack ∈ sample.packs, pack.isDefault = true → pack.id = 1 := by decide +kernel
  have hone := hids default hmem hisDefault
  rw [hone] at hholds hunmodified heach hnothing
  have hcount : count = 1 := by
    have hprompt : sample.templates.countP
        (fun row => row.packId = 1 ∧ row.templateId = "image-prompt") = 1 := by decide +kernel
    rw [hholds.count, ← hprompt]
    refine List.countP_congr fun row hrow => ?_
    simp only [decide_eq_true_eq]
    exact and_congr_right fun howner => needsReset_sample_iff hrow howner
  have hshipped : ∀ id, id ∈ ShippedTemplate.all.map (·.id) ↔
      ((1 : Int), id) ∈ sample.templates.map PackTemplate.key := by
    have hall : ShippedTemplate.all.map (·.id) =
        (sample.templates.filter (·.packId == 1)).map (·.templateId) := by decide +kernel
    intro id
    simp only [hall, List.mem_map, List.mem_filter, beq_iff_eq, PackTemplate.key, Prod.mk.injEq,
      and_assoc]
  obtain ⟨later, hlater, -, hlaterStatuses⟩ := heach _ hshipped
  rw [hcount] at hrun
  have hprompt := (hunmodified "image-prompt").2 (by decide +kernel)
  have hown := (hnothing "own-note").2 (by decide +kernel)
  exact ⟨after, later, entries, hrun, hagain, hlater, hstatuses, hlaterStatuses, hprompt, hown⟩

end Reachable

end PromptPacks
