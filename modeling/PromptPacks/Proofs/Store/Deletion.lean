import PromptPacks.Proofs.Store.Effects

namespace PromptPacks

open PromptPacks.Store PromptPacks.Transaction

namespace Tables

/-- Why a pack cannot be deleted. Of the default pack it does not matter whether
    stories use it. -/
inductive ForbidsDeletion (tables : Tables) (packId : Int) : Refusal → Prop where
  | missing (hpack : ¬tables.HasPack packId) :
    ForbidsDeletion tables packId (.notFound .pack (toString packId))
  | default {pack : Pack} (hpack : tables.pack? packId = some pack)
    (hdefault : pack.isDefault = true) : ForbidsDeletion tables packId .defaultPackStays
  | used {pack : Pack} (hpack : tables.pack? packId = some pack)
    (hdefault : pack.isDefault = false) (hused : 0 < tables.storyCount packId) :
    ForbidsDeletion tables packId (.packInUse packId (tables.storyCount packId))

/-- There is neither a pack with an identifier nor anything that refers to one. -/
structure IsFreeOf (tables : Tables) (packId : Int) : Prop where
  packs : ∀ pack ∈ tables.packs, pack.id ≠ packId
  templates : ∀ row ∈ tables.templates, row.packId ≠ packId
  «variables» : ∀ row ∈ tables.variables, row.packId ≠ packId
  stories : ∀ story ∈ tables.stories, story.packId ≠ packId

/-- An identifier that was given out to a pack that is there no more. -/
structure IsRetired (tables : Tables) (packId : Int) : Prop where
  counted : packId ≤ tables.lastPack
  missing : ¬tables.HasPack packId

variable {tables after : Tables} {packId : Int}

/-- A pack is missing exactly if a search for it fails. -/
theorem not_hasPack_iff : ¬tables.HasPack packId ↔ tables.pack? packId = none := by
  rw [← pack?_isSome_iff, Option.not_isSome_iff_eq_none]

/-- There is at most one obstacle to the deletion of a pack. So the answer does
    not depend on the order in which they are looked for. -/
theorem ForbidsDeletion.unique {a b : Refusal} (ha : tables.ForbidsDeletion packId a)
    (hb : tables.ForbidsDeletion packId b) : a = b := by
  cases ha with
  | missing hmissing =>
    cases hb with
    | missing => rfl
    | default hpack | used hpack => exact absurd (hasPack_of_pack?_eq_some hpack) hmissing
  | default hpack hdefault =>
    cases hb with
    | missing hmissing => exact absurd (hasPack_of_pack?_eq_some hpack) hmissing
    | default => rfl
    | used hfound hother =>
      obtain rfl := Option.some.inj (hfound.symm.trans hpack)
      simp [hdefault] at hother
  | used hpack hdefault =>
    cases hb with
    | missing hmissing => exact absurd (hasPack_of_pack?_eq_some hpack) hmissing
    | default hfound hother =>
      obtain rfl := Option.some.inj (hfound.symm.trans hpack)
      simp [hdefault] at hother
    | used => rfl

/-- No obstacle is left exactly if the pack exists, is not the default one and
    has no story. -/
theorem forall_not_forbidsDeletion_iff :
    (∀ refusal, ¬tables.ForbidsDeletion packId refusal) ↔
      ∃ pack, tables.pack? packId = some pack ∧ pack.isDefault = false ∧
        tables.storyCount packId = 0 := by
  constructor
  · intro hfree
    have hpack : tables.HasPack packId := by
      by_contra hmissing
      exact hfree _ (.missing hmissing)
    obtain ⟨pack, hpack⟩ := Option.isSome_iff_exists.1 (pack?_isSome_iff.2 hpack)
    have hdefault : pack.isDefault = false := by
      by_contra hdefault
      exact hfree _ (.default hpack (by simpa using hdefault))
    refine ⟨pack, hpack, hdefault, ?_⟩
    by_contra hused
    exact hfree _ (.used hpack hdefault (by omega))
  · rintro ⟨pack, hpack, hdefault, hunused⟩ refusal hforbids
    cases hforbids with
    | missing hmissing => exact hmissing (hasPack_of_pack?_eq_some hpack)
    | default hfound hisDefault =>
      obtain rfl := Option.some.inj (hfound.symm.trans hpack)
      simp [hdefault] at hisDefault
    | used _ _ hused => omega

/-- That the pack is missing is an obstacle exactly if it is missing. -/
theorem forbidsDeletion_missing_iff :
    tables.ForbidsDeletion packId (.notFound .pack (toString packId)) ↔
      ¬tables.HasPack packId := by
  constructor
  · rintro ⟨hmissing⟩
    exact hmissing
  · exact .missing

/-- A pack that exists is kept because it is the default one or because stories
    use it. The second obstacle tells how many there are. -/
theorem hasPack_and_forbidsDeletion_iff :
    (tables.HasPack packId ∧ ∃ refusal, tables.ForbidsDeletion packId refusal) ↔
      tables.ForbidsDeletion packId .defaultPackStays ∨
        tables.ForbidsDeletion packId (.packInUse packId (tables.storyCount packId)) := by
  constructor
  · rintro ⟨hpack, refusal, hforbids⟩
    cases hforbids with
    | missing hmissing => exact absurd hpack hmissing
    | default hfound hdefault => exact .inl (.default hfound hdefault)
    | used hfound hdefault hused => exact .inr (.used hfound hdefault hused)
  · rintro (hforbids | hforbids)
    · cases hforbids with
      | default hfound hdefault =>
        exact ⟨hasPack_of_pack?_eq_some hfound, _, .default hfound hdefault⟩
    · cases hforbids with
      | used hfound hdefault hused =>
        exact ⟨hasPack_of_pack?_eq_some hfound, _, .used hfound hdefault hused⟩

/-- The default pack is kept for being the default one, and no other pack is
    kept for this. -/
theorem Valid.forbidsDeletion_default_iff (hvalid : tables.Valid) :
    tables.ForbidsDeletion packId .defaultPackStays ↔
      ∃ pack ∈ tables.packs, pack.id = packId ∧ pack.isDefault = true := by
  rw [hvalid.exists_pack_iff]
  constructor
  · intro hforbids
    cases hforbids with
    | default hpack hdefault => exact ⟨_, hpack, hdefault⟩
  · rintro ⟨pack, hpack, hdefault⟩
    exact .default hpack hdefault

/-- Another pack is kept for being used exactly if some story uses it, and the
    right number of stories is told. -/
theorem Valid.forbidsDeletion_used_iff (hvalid : tables.Valid) {count : Nat} :
    tables.ForbidsDeletion packId (.packInUse packId count) ↔
      (∃ pack ∈ tables.packs, pack.id = packId ∧ pack.isDefault = false) ∧
        count = tables.storyCount packId ∧ 0 < count := by
  rw [hvalid.exists_pack_iff]
  constructor
  · intro hforbids
    cases hforbids with
    | used hpack hdefault hused => exact ⟨⟨_, hpack, hdefault⟩, rfl, hused⟩
  · rintro ⟨⟨pack, hpack, hdefault⟩, rfl, hused⟩
    exact .used hpack hdefault hused

/-- Every reference to a pack leads to one, so nothing refers to a missing one. -/
theorem Valid.isFreeOf (hvalid : tables.Valid) (hmissing : ¬tables.HasPack packId) :
    tables.IsFreeOf packId where
  packs pack hpack hid := hmissing ⟨pack, hpack, hid⟩
  templates row hrow hid := hmissing (hid ▸ hvalid.templatePacks row hrow)
  «variables» row hrow hid := hmissing (hid ▸ hvalid.variablePacks row hrow)
  stories story hstory hid := hmissing (hid ▸ hvalid.storyPacks story hstory)

/-- Replacing the row of a pack neither adds nor removes a pack. -/
theorem hasPack_setPack {row : Pack} :
    (tables.setPack row).HasPack packId ↔ tables.HasPack packId := by
  have hids : (tables.setPack row).packs.map (·.id) = tables.packs.map (·.id) :=
    Rows.map_key_replace (·.id) row tables.packs
  have hmem : ∀ packs : List Pack,
      (∃ pack ∈ packs, pack.id = packId) ↔ packId ∈ packs.map (·.id) := by simp
  rw [HasPack, HasPack, hmem, hmem, hids]

/-- A deletion removes one pack and no other. -/
theorem hasPack_withoutPack {other : Int} :
    (tables.withoutPack other).HasPack packId ↔ tables.HasPack packId ∧ packId ≠ other := by
  constructor
  · rintro ⟨pack, hpack, rfl⟩
    obtain ⟨hmem, hother⟩ := List.mem_filter.1 hpack
    exact ⟨⟨pack, hmem, rfl⟩, by simpa using hother⟩
  · rintro ⟨⟨pack, hpack, rfl⟩, hother⟩
    exact ⟨pack, List.mem_filter.2 ⟨hpack, by simpa using hother⟩, rfl⟩

namespace IsRetired

/-- An identifier stays retired as long as the counter does not go back and no
    pack gets it. New packs take the number behind the counter, which is a later
    one. -/
theorem of_hasPack (hretired : tables.IsRetired packId)
    (hcounter : tables.lastPack ≤ after.lastPack)
    (hpacks : after.HasPack packId → tables.HasPack packId ∨ packId = tables.lastPack + 1) :
    after.IsRetired packId := by
  have hcounted := hretired.counted
  refine ⟨by omega, fun hpack => ?_⟩
  obtain hpack | hnew := hpacks hpack
  · exact hretired.missing hpack
  · omega

/-- Where no pack is added, an identifier stays retired. -/
theorem of_packs_eq (hretired : tables.IsRetired packId) (hpacks : after.packs = tables.packs)
    (hcounter : after.lastPack = tables.lastPack) : after.IsRetired packId := by
  apply hretired.of_hasPack (Nat.le_of_eq hcounter.symm)
  rw [HasPack, hpacks]
  exact .inl

/-- The identifier of a deleted pack is retired: the pack is gone, and the
    counter is past its number. -/
theorem withoutPack (hvalid : tables.Valid) (hpack : tables.HasPack packId) :
    (tables.withoutPack packId).IsRetired packId := by
  obtain ⟨pack, hmem, rfl⟩ := hpack
  refine ⟨hvalid.packsCounted pack hmem, fun hkept => ?_⟩
  exact (hasPack_withoutPack.1 hkept).2 rfl

end IsRetired

end Tables

namespace Store

variable {tables after : Tables} {packId : Int}

/-- A deletion fails for the obstacle to it, if there is one. Otherwise the pack
    and its rows are gone, and the tables allow this. -/
theorem outcome_deletePack :
    (deletePack packId).Outcome tables
      (fun reason => ∃ refusal, tables.ForbidsDeletion packId refusal ∧ reason = .refused refusal)
      fun _ after => (∀ refusal, ¬tables.ForbidsDeletion packId refusal) ∧
        after = tables.withoutPack packId := by
  simp only [deletePack, outcome_bind, outcome_requirePack, outcome_ite, outcome_refuse,
    outcome_ask]
  refine ⟨fun hpack => ⟨_, .missing (Tables.not_hasPack_iff.2 hpack), rfl⟩, fun pack hpack =>
    ⟨fun hdefault => ⟨_, .default hpack hdefault, rfl⟩, fun hdefault => ?_⟩⟩
  rw [Bool.not_eq_true] at hdefault
  refine ⟨fun hused => ⟨_, .used hpack hdefault hused, rfl⟩, fun hunused => ?_⟩
  have hcount : tables.storyCount packId = 0 := by omega
  rw [outcome_change, Tables.deletePack?_of_unused hcount]
  refine ⟨by simp, fun after hafter => ⟨?_, (Option.some.inj hafter).symm⟩⟩
  exact Tables.forall_not_forbidsDeletion_iff.2 ⟨pack, hpack, hdefault, hcount⟩

/-- A deletion is turned down exactly for the obstacle to it. There is at most
    one obstacle, so that it can be told from the tables which refusal comes. -/
theorem deletePack_eq_error_iff {refusal : Refusal} :
    deletePack packId tables = .error (.refused refusal) ↔
      tables.ForbidsDeletion packId refusal := by
  constructor
  · intro hrun
    obtain ⟨other, hforbids, hsame⟩ := outcome_deletePack.of_error hrun
    cases hsame
    exact hforbids
  · intro hforbids
    cases hrun : deletePack packId tables with
    | ok result => exact absurd hforbids ((outcome_deletePack.of_ok hrun).1 refusal)
    | error reason =>
      obtain ⟨other, hother, rfl⟩ := outcome_deletePack.of_error hrun
      rw [hforbids.unique hother]

/-- A deletion succeeds exactly if there is no obstacle, and it leaves the
    tables without the pack. -/
theorem deletePack_eq_ok_iff :
    deletePack packId tables = .ok ((), after) ↔
      (∀ refusal, ¬tables.ForbidsDeletion packId refusal) ∧ after = tables.withoutPack packId := by
  constructor
  · exact outcome_deletePack.of_ok
  · rintro ⟨hfree, rfl⟩
    cases hrun : deletePack packId tables with
    | ok result => rw [← (outcome_deletePack.of_ok hrun).2]
    | error reason =>
      obtain ⟨refusal, hforbids, -⟩ := outcome_deletePack.of_error hrun
      exact absurd hforbids (hfree refusal)

/-- The question about a pack that exists is answered from its row and from the
    number of its stories. -/
theorem canDeletePack_of_pack? {pack : Pack} (hpack : tables.pack? packId = some pack) :
    canDeletePack packId tables =
      .ok (!pack.isDefault && tables.storyCount packId == 0, tables) := by
  apply Outcome.eq_ok
  rw [canDeletePack, outcome_bind, outcome_requirePack, hpack]
  refine ⟨by simp, fun found hfound => ?_⟩
  rw [Option.some.inj hfound]
  exact ⟨rfl, rfl⟩

/-- The question about a missing pack fails. -/
theorem canDeletePack_of_missing (hmissing : ¬tables.HasPack packId) :
    canDeletePack packId tables = .error (.refused (.notFound .pack (toString packId))) := by
  apply Outcome.eq_error
  rw [canDeletePack, outcome_bind, outcome_requirePack, Tables.not_hasPack_iff.1 hmissing]
  exact ⟨fun _ => rfl, by simp⟩

/-- The question is a procedure of its own. For a pack that exists, its answer
    says whether there is an obstacle to a deletion. -/
theorem canDeletePack_eq_ok_iff {answer : Bool} :
    canDeletePack packId tables = .ok (answer, after) ↔
      tables.HasPack packId ∧ after = tables ∧
        (answer = true ↔ ∀ refusal, ¬tables.ForbidsDeletion packId refusal) := by
  by_cases hhas : tables.HasPack packId
  · obtain ⟨pack, hpack⟩ := Option.isSome_iff_exists.1 (Tables.pack?_isSome_iff.2 hhas)
    rw [canDeletePack_of_pack? hpack, Tables.forall_not_forbidsDeletion_iff, hpack]
    simp only [Except.ok.injEq, Prod.mk.injEq, Option.some.injEq, exists_eq_left', hhas, true_and]
    rw [and_comm, @eq_comm _ tables after]
    refine and_congr_right fun _ => ?_
    cases answer <;> simp
  · simp [canDeletePack_of_missing hhas, hhas]

/-- The question fails exactly if the pack is missing. -/
theorem canDeletePack_eq_error_iff :
    canDeletePack packId tables = .error (.refused (.notFound .pack (toString packId))) ↔
      ¬tables.HasPack packId := by
  refine ⟨fun hrun hhas => ?_, canDeletePack_of_missing⟩
  obtain ⟨pack, hpack⟩ := Option.isSome_iff_exists.1 (Tables.pack?_isSome_iff.2 hhas)
  rw [canDeletePack_of_pack? hpack] at hrun
  cases hrun

/-- The question whether a pack can be deleted has the answer that its deletion
    bears out, and each obstacle to a deletion is reported as what it is. -/
structure ForetellsDeletion (tables : Tables) (packId : Int) : Prop where
  yes : canDeletePack packId tables = .ok (true, tables) ↔
    ∃ after, deletePack packId tables = .ok ((), after)
  no : canDeletePack packId tables = .ok (false, tables) ↔
    deletePack packId tables = .error (.refused .defaultPackStays) ∨
      deletePack packId tables = .error (.refused (.packInUse packId
        (tables.stories.countP (·.packId == packId))))
  missing : canDeletePack packId tables = .error (.refused (.notFound .pack (toString packId))) ↔
    ∀ pack ∈ tables.packs, pack.id ≠ packId
  deletesMissing : deletePack packId tables =
      .error (.refused (.notFound .pack (toString packId))) ↔
    ∀ pack ∈ tables.packs, pack.id ≠ packId
  deletesDefault : deletePack packId tables = .error (.refused .defaultPackStays) ↔
    ∃ pack ∈ tables.packs, pack.id = packId ∧ pack.isDefault = true
  deletesUsed : ∀ count, deletePack packId tables =
      .error (.refused (.packInUse packId count)) ↔
    (∃ pack ∈ tables.packs, pack.id = packId ∧ pack.isDefault = false) ∧
      count = tables.stories.countP (·.packId == packId) ∧ 0 < count
  deletes : ∀ after, deletePack packId tables = .ok ((), after) ↔
    (∃ pack ∈ tables.packs, pack.id = packId ∧ pack.isDefault = false) ∧
      (∀ story ∈ tables.stories, story.packId ≠ packId) ∧ after = tables.withoutPack packId

/-- The answer to the question foretells what a deletion does, in both
    directions and for each obstacle. The two share no code. -/
theorem foretellsDeletion (hvalid : tables.Valid) (packId : Int) :
    ForetellsDeletion tables packId := by
  have hmissing : ¬tables.HasPack packId ↔ ∀ pack ∈ tables.packs, pack.id ≠ packId := by
    simp [Tables.HasPack]
  constructor
  case yes =>
    simp only [canDeletePack_eq_ok_iff, deletePack_eq_ok_iff, exists_and_left, exists_eq, and_true,
      true_and, true_iff]
    refine and_iff_right_of_imp fun hfree => ?_
    obtain ⟨pack, hpack, -⟩ := Tables.forall_not_forbidsDeletion_iff.1 hfree
    exact Tables.hasPack_of_pack?_eq_some hpack
  case no =>
    rw [canDeletePack_eq_ok_iff, deletePack_eq_error_iff, deletePack_eq_error_iff]
    refine Iff.trans ?_ Tables.hasPack_and_forbidsDeletion_iff
    simp
  case missing => exact canDeletePack_eq_error_iff.trans hmissing
  case deletesMissing =>
    rw [deletePack_eq_error_iff, Tables.forbidsDeletion_missing_iff, hmissing]
  case deletesDefault => exact deletePack_eq_error_iff.trans hvalid.forbidsDeletion_default_iff
  case deletesUsed =>
    intro count
    exact deletePack_eq_error_iff.trans hvalid.forbidsDeletion_used_iff
  case deletes =>
    intro after
    rw [deletePack_eq_ok_iff, Tables.forall_not_forbidsDeletion_iff, hvalid.exists_pack_iff,
      ← Tables.storyCount_eq_zero]
    constructor
    · rintro ⟨⟨pack, hpack, hdefault, hunused⟩, hafter⟩
      exact ⟨⟨pack, hpack, hdefault⟩, hunused, hafter⟩
    · rintro ⟨⟨pack, hpack, hdefault⟩, hunused, hafter⟩
      exact ⟨⟨pack, hpack, hdefault, hunused⟩, hafter⟩

end Store

namespace Request

variable {α : Type} {registry : Registry} {tables after : Tables} {packId : Int}
  {request : Request α}

/-- No request gives an identifier to a pack a second time, as all new packs
    take the number behind the counter. -/
theorem Effect.isRetired (heffect : request.Effect registry tables after)
    (hretired : tables.IsRetired packId) : after.IsRetired packId := by
  have hadded : ∀ {name : String} {description author : Option String} {isDefault : Bool},
      (tables.addPack name description author isDefault).IsRetired packId := by
    intro name description author isDefault
    exact hretired.of_hasPack (by simp [Tables.addPack]) Tables.hasPack_addPack.1
  cases heffect with
  | seed => exact hretired.of_packs_eq Tables.packs_refreshAll Tables.lastPack_refreshAll
  | firstSeed => exact hadded.of_packs_eq Tables.packs_refreshAll Tables.lastPack_refreshAll
  | createPack => exact hadded.of_packs_eq (Tables.packs_putAll _) (Tables.lastPack_putAll _)
  | importPack =>
    exact hadded.of_packs_eq ((Tables.packs_putAll _).trans (Tables.packs_putAll _))
      ((Tables.lastPack_putAll _).trans (Tables.lastPack_putAll _))
  | updatePack =>
    exact hretired.of_hasPack (Nat.le_refl _) fun hpack => .inl (Tables.hasPack_setPack.1 hpack)
  | deletePack =>
    exact hretired.of_hasPack (Nat.le_refl _) fun hpack =>
      .inl (Tables.hasPack_withoutPack.1 hpack).1
  | resetAll => exact hretired.of_packs_eq (Tables.packs_putAll _) (Tables.lastPack_putAll _)
  | unchanged | setTemplate | resetTemplate | createVariable | updateVariable | deleteVariable
  | assignPack | setStoryValues => exact ⟨hretired.counted, hretired.missing⟩

end Request

namespace Reachable

variable {registry : Registry} {tables after later : Tables} {packId : Int}

/-- Once an identifier is retired, no row ever refers to it again, whatever
    requests follow. -/
theorem isFreeOf_of_leadsTo (hreachable : Reachable registry tables)
    (hretired : tables.IsRetired packId) (hleads : LeadsTo registry Request.IsAny tables later) :
    later.IsFreeOf packId := by
  have hlater : later.IsRetired packId := by
    apply hleads.keeps (·.IsRetired packId) hreachable hretired
    · intro before after α request _ _ hretired _ heffect
      exact heffect.isRetired hretired
    · intro before row hretired
      exact ⟨hretired.counted, hretired.missing⟩
  exact (hleads.reachable hreachable).valid.isFreeOf hlater.missing

/-- A pack is deleted exactly when the question before said so, it goes with all
    that belongs to it and nothing else, and whatever happens then, nothing
    refers to it. -/
theorem deletion_is_foretold_and_final (hreachable : Reachable registry tables) (packId : Int) :
    ForetellsDeletion tables packId ∧
      ∀ after, deletePack packId tables = .ok ((), after) →
        after = tables.withoutPack packId ∧
          ∀ later, LeadsTo registry Request.IsAny after later → later.IsFreeOf packId := by
  have hvalid := hreachable.valid
  refine ⟨foretellsDeletion hvalid packId, fun after hrun => ?_⟩
  have hstep : (Request.deletePack packId).after registry tables = after :=
    Request.after_of_ok hrun
  have hafter : Reachable registry after := hstep ▸ .request trivial hreachable
  obtain ⟨pack, hpack, -, -, rfl, -⟩ := (deletePack_spec hvalid packId).of_ok hrun
  refine ⟨rfl, fun later hleads => hafter.isFreeOf_of_leadsTo ?_ hleads⟩
  exact .withoutPack hvalid (Tables.hasPack_of_pack?_eq_some hpack)

/-- The second pack of the sample has a template and a variable of its own. They
    go with it for good, while the default pack stays. -/
theorem deletion_is_final_sample : deletePack 1 sample = .error (.refused .defaultPackStays) ∧
    canDeletePack 2 sample = .ok (true, sample) ∧
    ∀ later, LeadsTo .empty Request.IsAny (sample.withoutPack 2) later → later.IsFreeOf 2 := by
  obtain ⟨hdefault, -⟩ := reachable_sample.deletion_is_foretold_and_final 1
  obtain ⟨hcustom, hfinal⟩ := reachable_sample.deletion_is_foretold_and_final 2
  have hdeletes : deletePack 2 sample = .ok ((), sample.withoutPack 2) :=
    (hcustom.deletes _).2 ⟨by decide +kernel, by decide +kernel, rfl⟩
  refine ⟨hdefault.deletesDefault.2 (by decide +kernel), hcustom.yes.2 ⟨_, hdeletes⟩, ?_⟩
  exact (hfinal _ hdeletes).2

end Reachable

end PromptPacks
