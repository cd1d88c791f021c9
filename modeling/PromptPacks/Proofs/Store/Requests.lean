import PromptPacks.Proofs.Store.Soundness

namespace PromptPacks

open PromptPacks.Digest PromptPacks.Number PromptPacks.Store PromptPacks.Transaction

/-- The requests that a store answers, each with the type of its answer. -/
inductive Request : Type → Type where
  | seed : Request SeedReport
  | packs : Request (List Pack)
  | pack (packId : Int) : Request Pack
  | defaultPack : Request Pack
  | createPack (name : String) (description author : Option String) : Request Pack
  | updatePack (packId : Int) (name description author : Option String) : Request Pack
  | deletePack (packId : Int) : Request Unit
  | canDeletePack (packId : Int) : Request Bool
  | templates (packId : Int) : Request (List PackTemplate)
  | template (packId : Int) (templateId : String) : Request (Option PackTemplate)
  | setTemplate (packId : Int) (templateId content : String) : Request PackTemplate
  | resetTemplate (packId : Int) (templateId : String) : Request PackTemplate
  | resetAll (packId : Int) : Request Nat
  | statuses (packId : Int) : Request (List (String × TemplateStatus))
  | «variables» (packId : Int) : Request (List PackVariable)
  | createVariable (packId : Int) (definition : VariableDefinition) (sortOrder : Option Int) :
    Request PackVariable
  | updateVariable (packId variableId : Int) (patch : VariablePatch) : Request PackVariable
  | deleteVariable (packId variableId : Int) : Request Unit
  | exportPack (packId : Int) : Request Envelope
  | importPack (envelope : Envelope) : Request Pack
  | story (storyId : Int) : Request Story
  | assignPack (storyId packId : Int) : Request Story
  | storyValues (storyId : Int) : Request (Dictionary Json)
  | setStoryValues (storyId : Int) (values : Dictionary Json) : Request (Dictionary Json)

namespace Request

variable {α : Type}

/-- What a store with a registry does for a request. -/
def run (registry : Registry) : Request α → Transaction α
  | seed => Store.seed
  | packs => Store.packs
  | pack packId => requirePack packId
  | defaultPack => requireDefault
  | createPack name description author => Store.createPack name description author
  | updatePack packId name description author => Store.updatePack packId name description author
  | deletePack packId => Store.deletePack packId
  | canDeletePack packId => Store.canDeletePack packId
  | templates packId => Store.templates packId
  | template packId templateId => ask (·.template? packId templateId)
  | setTemplate packId templateId content => Store.setTemplate registry packId templateId content
  | resetTemplate packId templateId => Store.resetTemplate packId templateId
  | resetAll packId => Store.resetAll packId
  | statuses packId => Store.statuses packId
  | «variables» packId => Store.variables packId
  | createVariable packId definition sortOrder => Store.createVariable packId definition sortOrder
  | updateVariable packId variableId patch => Store.updateVariable packId variableId patch
  | deleteVariable packId variableId => Store.deleteVariable packId variableId
  | exportPack packId => Store.exportPack packId
  | importPack envelope => Store.importPack registry envelope
  | story storyId => Store.story storyId
  | assignPack storyId packId => Store.assignPack storyId packId
  | storyValues storyId => Store.storyValues storyId
  | setStoryValues storyId values => Store.setStoryValues storyId values

/-- The tables after a request. One that fails leaves them as they are. -/
def after (registry : Registry) (request : Request α) (tables : Tables) : Tables :=
  match request.run registry tables with
  | .ok (_, after) => after
  | .error _ => tables

/-- After a success the tables are those that the request has left. -/
theorem after_of_ok {registry : Registry} {request : Request α} {tables after : Tables}
    {answer : α} (hrun : request.run registry tables = .ok (answer, after)) :
    request.after registry tables = after := by
  rw [Request.after, hrun]

/-- The numbers that a request gives can be stored: the places of variables fit
    into 64 bits, and so do the whole numbers among the values of stories, whose
    other numbers are finite. -/
def GivesNumbers : Request α → Prop
  | createVariable _ _ sortOrder => ∀ place, sortOrder = some place → IsPlace place
  | updateVariable _ _ patch => ∀ place, patch.sortOrder = some place → IsPlace place
  | importPack envelope => ∀ exported ∈ envelope.variables, IsPlace exported.sortOrder
  | setStoryValues _ values => ∀ entry ∈ values.entries, entry.2.IsExact
  | _ => True

/-- The tables lack a place for the variable that a request adds at the end of a
    pack. -/
def LacksPlace (tables : Tables) : Request α → Prop
  | createVariable packId definition none => tables.LacksPlace packId definition
  | _ => False

variable {registry : Registry} {tables : Tables}

/-- A request that does not ask for the place after all variables never lacks
    one. So the tables never turn it down. -/
theorem outcome_of_ne_storage {request : Request α} {success : Tables → Prop}
    (hlacks : ¬request.LacksPlace tables)
    (houtcome : (request.run registry).Outcome tables (· ≠ .storage) fun _ after => success after) :
    (request.run registry).Outcome tables (fun reason => reason = .storage ↔
      request.LacksPlace tables) fun _ after => ¬request.LacksPlace tables ∧ success after := by
  refine houtcome.imp (fun reason hreason => ?_) fun _ after hafter => ⟨hlacks, hafter⟩
  exact iff_of_false hreason hlacks

/-- From tables that keep their constraints, a request fails for want of storage
    only if it lacks a place, and it keeps the constraints. -/
theorem outcome_run (hvalid : tables.Valid) (hsound : tables.Sound registry) (request : Request α)
    (hnumbers : request.GivesNumbers) :
    (request.run registry).Outcome tables (fun reason => reason = .storage ↔
      request.LacksPlace tables) fun _ after =>
        ¬request.LacksPlace tables ∧ after.Valid ∧ after.Sound registry := by
  cases request with
  | seed => exact outcome_of_ne_storage id (seed_sound hvalid hsound)
  | createPack name description author =>
    exact outcome_of_ne_storage id (createPack_sound hvalid hsound name description author)
  | updatePack packId name description author =>
    exact outcome_of_ne_storage id (updatePack_sound hvalid hsound packId name description author)
  | deletePack packId => exact outcome_of_ne_storage id (deletePack_sound hvalid hsound packId)
  | setTemplate packId templateId content =>
    exact outcome_of_ne_storage id (setTemplate_sound hvalid hsound packId templateId content)
  | resetTemplate packId templateId =>
    exact outcome_of_ne_storage id (resetTemplate_sound hvalid hsound packId templateId)
  | resetAll packId => exact outcome_of_ne_storage id (resetAll_sound hvalid hsound packId)
  | createVariable packId definition sortOrder =>
    have houtcome := createVariable_sound hvalid hsound packId definition sortOrder hnumbers
    cases sortOrder with
    | none => simpa [run, LacksPlace] using houtcome
    | some place => simpa [run, LacksPlace] using houtcome
  | updateVariable packId variableId patch =>
    exact outcome_of_ne_storage id
      (updateVariable_sound hvalid hsound packId variableId patch hnumbers)
  | deleteVariable packId variableId =>
    exact outcome_of_ne_storage id (deleteVariable_sound hvalid hsound packId variableId)
  | importPack envelope =>
    exact outcome_of_ne_storage id (importPack_sound hvalid hsound envelope hnumbers)
  | assignPack storyId packId =>
    exact outcome_of_ne_storage id (assignPack_sound hvalid hsound storyId packId)
  | setStoryValues storyId values =>
    exact outcome_of_ne_storage id (setStoryValues_sound hvalid hsound storyId hnumbers)
  | packs | template =>
    exact outcome_of_ne_storage id ((outcome_ask _).2 ⟨hvalid, hsound⟩)
  | pack =>
    exact outcome_of_ne_storage id (outcome_requirePack.2 ⟨by simp, fun _ _ => ⟨hvalid, hsound⟩⟩)
  | defaultPack =>
    exact outcome_of_ne_storage id (outcome_requireDefault.2 ⟨by simp, fun _ _ => ⟨hvalid, hsound⟩⟩)
  | canDeletePack | templates =>
    refine outcome_of_ne_storage id (outcome_bind.2 (outcome_requirePack.2 ⟨by simp, ?_⟩))
    exact fun _ _ => ⟨hvalid, hsound⟩
  | «variables» =>
    refine outcome_of_ne_storage id ?_
    rw [run, Store.variables, readVariables_eq_ask, outcome_bind, outcome_requirePack]
    exact ⟨by simp, fun _ _ => ⟨hvalid, hsound⟩⟩
  | exportPack =>
    refine outcome_of_ne_storage id ?_
    rw [run, exportPack_eq, outcome_bind, outcome_requirePack]
    exact ⟨by simp, fun _ _ => ⟨hvalid, hsound⟩⟩
  | statuses =>
    refine outcome_of_ne_storage id (outcome_bind.2 (outcome_requirePack.2 ⟨by simp, ?_⟩))
    intro pack _
    simp [outcome_requireDefault, hvalid, hsound]
  | story =>
    refine outcome_of_ne_storage id ((outcome_readStory hsound.stories).2 ⟨by simp, ?_⟩)
    exact fun _ _ => ⟨hvalid, hsound⟩
  | storyValues =>
    refine outcome_of_ne_storage id (outcome_bind.2 ((outcome_readStory hsound.stories).2
      ⟨by simp, fun _ _ => ⟨hvalid, hsound⟩⟩))

/-- The tables stay valid and sound whatever is requested, if the numbers that
    are given can be stored. -/
theorem sound_after (hvalid : tables.Valid) (hsound : tables.Sound registry)
    {request : Request α} (hnumbers : request.GivesNumbers) :
    (request.after registry tables).Valid ∧ (request.after registry tables).Sound registry := by
  have houtcome := outcome_run hvalid hsound request hnumbers
  unfold after
  cases hrun : request.run registry tables with
  | ok result => exact (houtcome.of_ok hrun).2
  | error reason => exact ⟨hvalid, hsound⟩

end Request

/-- The tables that a store with a registry can come to have: those that
    requests, whether they succeed or fail, and further stories lead to from
    tables without rows. -/
inductive Reachable (registry : Registry) : Tables → Prop where
  | empty : Reachable registry .empty
  | request {tables : Tables} {α : Type} {request : Request α} (hnumbers : request.GivesNumbers)
    (hreachable : Reachable registry tables) : Reachable registry (request.after registry tables)
  | story {tables after : Tables} {title : String}
    {genre mode pov tense protagonistName : Option String} {packId : Int} {row : Story}
    (hrun : createStory title genre mode pov tense protagonistName packId tables =
      .ok (row, after))
    (hreachable : Reachable registry tables) : Reachable registry after

namespace Reachable

variable {registry : Registry} {tables : Tables}

/-- All reachable tables keep their constraints and are sound. The induction
    over runs is made here once for both. -/
theorem valid_and_sound (hreachable : Reachable registry tables) :
    tables.Valid ∧ tables.Sound registry := by
  induction hreachable with
  | empty => exact ⟨.empty, .empty⟩
  | request hnumbers _ ih => exact Request.sound_after ih.1 ih.2 hnumbers
  | story hrun _ ih =>
    exact (createStory_sound ih.1 ih.2 _ _ _ _ _ _ _).of_ok hrun

/-- All reachable tables keep their constraints. -/
theorem valid (hreachable : Reachable registry tables) : tables.Valid :=
  hreachable.valid_and_sound.1

/-- All reachable tables are sound: their templates and variables have been
    accepted, and their rows can be read. -/
theorem sound (hreachable : Reachable registry tables) : tables.Sound registry :=
  hreachable.valid_and_sound.2

/-- A variable of the type of free text. -/
def mood : VariableDefinition :=
  ⟨"mood", "Mood", .text, .custom, false, none, none, none⟩

/-- Tables with a pack beside the default one. It has a prompt of its own, and a
    variable stands at the greatest place. -/
def sample : Tables :=
  (Request.createVariable 2 { mood with name := "weather" } (some maxInt64)).after .empty
    ((Request.setTemplate 2 "image-prompt" "A sketch.").after .empty
      ((Request.createPack "Custom" none none).after .empty (Request.seed.after .empty .empty)))

theorem reachable_sample : Reachable .empty sample := by
  refine .request ?_ (.request trivial (.request trivial (.request trivial .empty)))
  rintro place ⟨rfl⟩
  exact ⟨by decide, by decide⟩

/-- The rules of the store keep every constraint on the tables: the only request
    that the tables cannot hold adds a variable at the end of a pack in which
    the greatest place is taken. All other failures are refusals. `storage`
    stands for any constraint that a write breaks, the one on the spellings of
    types and those on keys and references among them, and also for any row that
    cannot be read back: so no request meets a broken row, and none leaves one
    behind. -/
theorem run_eq_storage_iff {α : Type} (hreachable : Reachable registry tables)
    (request : Request α) (hnumbers : request.GivesNumbers) :
    request.run registry tables = .error .storage ↔ request.LacksPlace tables := by
  have houtcome := Request.outcome_run hreachable.valid hreachable.sound request hnumbers
  constructor
  · intro hrun
    exact (houtcome.of_error hrun).1 rfl
  · intro hlacks
    cases hrun : request.run registry tables with
    | ok result => exact absurd hlacks (houtcome.of_ok hrun).1
    | error reason => rw [(houtcome.of_error hrun).2 hlacks]

/-- Where the last place has been taken, a further variable without a place
    cannot be stored. -/
theorem run_createVariable_sample :
    (Request.createVariable 2 mood none).run .empty sample = .error .storage := by
  refine (reachable_sample.run_eq_storage_iff _ (by rintro place ⟨⟩)).2 ?_
  exact {
    isEditable := ⟨⟨2, "Custom", none, none, false⟩, by decide +kernel, rfl⟩
    isAccepted := by decide +kernel
    isFree := by decide +kernel
    isExhausted := by decide +kernel }

end Reachable

end PromptPacks
