import PromptPacks.Proofs.Store.Requests

namespace PromptPacks

open PromptPacks.Digest PromptPacks.Store PromptPacks.Text PromptPacks.Transaction

namespace Request

/-- What a request can make of the tables, with all that the rules of the store
    have made sure of. A request that fails and one that only asks change
    nothing. -/
inductive Effect (registry : Registry) (tables : Tables) :
    {α : Type} → Request α → Tables → Prop where
  | unchanged {α : Type} (request : Request α) : Effect registry tables request tables
  | seed {pack : Pack} (hdefault : tables.defaultPack? = some pack) :
    Effect registry tables .seed (tables.refreshAll (ShippedTemplate.all.map (·.row pack.id)))
  | firstSeed (hdefault : tables.defaultPack? = none) :
    Effect registry tables .seed
      ((tables.addPack (uniqueName defaultPackName tables.packNames) (some defaultPackDescription)
        none true).refreshAll (ShippedTemplate.all.map (·.row (tables.lastPack + 1))))
  | createPack {name : String} {description author : Option String} {default : Pack}
    (hdefault : tables.defaultPack? = some default) (hfree : tables.packNamed? name = none)
    (hname : checkPackName name = .ok ())
    (hdescription : checkFreeText "Description" description = .ok ())
    (hauthor : checkFreeText "Author" author = .ok ()) :
    Effect registry tables (.createPack name description author)
      (((tables.addPack name description author false).putAll
        (tables.templateCopies default.id (tables.lastPack + 1))).addVariables
          (tables.lastPack + 1) (tables.variableCopies default.id))
  | updatePack {packId : Int} {name description author : Option String} {pack : Pack}
    (hpack : tables.pack? packId = some pack) (heditable : pack.isDefault = false)
    (hname : ∀ fresh, name = some fresh → checkPackName fresh = .ok ())
    (hdescription : checkFreeText "Description" description = .ok ())
    (hauthor : checkFreeText "Author" author = .ok ()) :
    Effect registry tables (.updatePack packId name description author)
      (tables.setPack ⟨packId, name.getD pack.name, description.or pack.description,
        author.or pack.author, false⟩)
  | deletePack {packId : Int} {pack : Pack} (hpack : tables.pack? packId = some pack)
    (heditable : pack.isDefault = false) :
    Effect registry tables (.deletePack packId) (tables.withoutPack packId)
  | setTemplate {packId : Int} {templateId content : String} {pack : Pack}
    (hpack : tables.pack? packId = some pack) (heditable : pack.isDefault = false)
    (hid : isBlankText templateId = false)
    (haccepts : AcceptsTemplate registry ((tables.variablesOf packId).map (·.name)) templateId
      content) :
    Effect registry tables (.setTemplate packId templateId content)
      (tables.put ⟨packId, templateId, content, contentHash content⟩)
  | resetTemplate {packId : Int} {templateId : String} {pack default : Pack}
    {baseline : PackTemplate} (hpack : tables.pack? packId = some pack)
    (heditable : pack.isDefault = false) (hdefault : tables.defaultPack? = some default)
    (hbaseline : tables.template? default.id templateId = some baseline) :
    Effect registry tables (.resetTemplate packId templateId) (tables.put (baseline.moved packId))
  | resetAll {packId : Int} {pack default : Pack} (hpack : tables.pack? packId = some pack)
    (heditable : pack.isDefault = false) (hdefault : tables.defaultPack? = some default) :
    Effect registry tables (.resetAll packId)
      (tables.putAll ((tables.differing default.id packId).map (·.moved packId)))
  | createVariable {packId : Int} {definition : VariableDefinition} {sortOrder : Option Int}
    {pack : Pack} (place : Int) (hpack : tables.pack? packId = some pack)
    (heditable : pack.isDefault = false) (haccepted : definition.check = .ok ()) :
    Effect registry tables (.createVariable packId definition sortOrder)
      (tables.addVariables packId [(definition, place)])
  | updateVariable {packId variableId : Int} {patch : VariablePatch} {pack : Pack}
    {existing : PackVariable} (hpack : tables.pack? packId = some pack)
    (heditable : pack.isDefault = false)
    (hexisting : tables.variableRow? variableId = some existing)
    (howner : existing.packId = packId)
    (haccepted : (patch.apply existing.definition).check = .ok ()) :
    Effect registry tables (.updateVariable packId variableId patch)
      (tables.setVariable (.ofDefinition existing.id packId (patch.apply existing.definition)
        (patch.sortOrder.getD existing.sortOrder)))
  | deleteVariable {packId variableId : Int} {pack : Pack} {existing : PackVariable}
    (hpack : tables.pack? packId = some pack) (heditable : pack.isDefault = false)
    (hexisting : tables.variableRow? variableId = some existing)
    (howner : existing.packId = packId) :
    Effect registry tables (.deleteVariable packId variableId)
      (tables.deleteVariables (·.id == variableId))
  | importPack {envelope : Envelope} {default : Pack} (hcheck : envelope.check = .ok ())
    (haccepts : ∀ template ∈ envelope.templates, AcceptsTemplate registry
      (envelope.variables.map (·.definition.name)) template.templateId template.content)
    (hdefault : tables.defaultPack? = some default) :
    Effect registry tables (.importPack envelope)
      ((((tables.addPack (uniqueName envelope.name tables.packNames) envelope.description
        envelope.author false).putAll (envelope.rows (tables.lastPack + 1))).putAll
          (tables.missingRows default.id (envelope.templates.map (·.templateId))
            (tables.lastPack + 1))).addVariables (tables.lastPack + 1) envelope.placed)
  | assignPack {storyId packId : Int} (row : Story) :
    Effect registry tables (.assignPack storyId packId) (tables.setStory row)
  | setStoryValues {storyId : Int} {values : Dictionary Json} (row : Story) :
    Effect registry tables (.setStoryValues storyId values) (tables.setStory row)

variable {α : Type} {registry : Registry} {tables : Tables}

/-- Whatever a request does to tables that keep their constraints is one of the
    effects. All facts about runs are proved of the effects, so no proof needs
    to look into a request. -/
theorem outcome_effect (hvalid : tables.Valid) (hsound : tables.Sound registry)
    (request : Request α) :
    (request.run registry).Outcome tables (fun _ => True) fun _ after =>
      request.Effect registry tables after := by
  have hunchanged : ∀ {β : Type} {question : Transaction β} {request : Request α},
      (question.Outcome tables (fun _ => True) fun _ after => after = tables) →
        question.Outcome tables (fun _ => True) fun _ after =>
          request.Effect registry tables after := by
    intro β question request hquestion
    refine hquestion.imp_success ?_
    rintro answer after rfl
    exact .unchanged request
  cases request with
  | seed =>
    refine (seed_spec hvalid).imp (by simp) ?_
    rintro report after ⟨pack, start, -, hstart, rfl, -⟩
    obtain ⟨-, hdefault, rfl⟩ | ⟨-, hdefault, rfl, rfl⟩ := hstart
    · exact .seed hdefault
    · exact .firstSeed hdefault
  | createPack name description author =>
    refine (createPack_spec hvalid name description author).imp (by simp) ?_
    rintro pack after ⟨default, hdefault, hfree, hname, hdescription, hauthor, rfl, rfl, -⟩
    exact .createPack hdefault hfree hname hdescription hauthor
  | updatePack packId name description author =>
    refine (updatePack_spec hvalid packId name description author).imp (by simp) ?_
    rintro row after ⟨pack, hpack, heditable, hname, hdescription, hauthor, rfl, rfl, -⟩
    exact .updatePack hpack heditable hname hdescription hauthor
  | deletePack packId =>
    refine (deletePack_spec hvalid packId).imp (by simp) ?_
    rintro _ after ⟨pack, hpack, heditable, -, rfl, -⟩
    exact .deletePack hpack heditable
  | setTemplate packId templateId content =>
    refine (setTemplate_spec hvalid registry packId templateId content).imp (by simp) ?_
    rintro row after ⟨pack, hpack, heditable, hid, haccepts, rfl, rfl, -⟩
    exact .setTemplate hpack heditable hid haccepts
  | resetTemplate packId templateId =>
    refine (resetTemplate_spec hvalid packId templateId).imp (by simp) ?_
    rintro row after ⟨pack, hpack, heditable, default, baseline, hdefault, hbaseline, rfl, rfl, -⟩
    exact .resetTemplate hpack heditable hdefault hbaseline
  | resetAll packId =>
    refine (resetAll_spec hvalid packId).imp (by simp) ?_
    rintro count after ⟨pack, hpack, heditable, default, hdefault, -, rfl, -⟩
    exact .resetAll hpack heditable hdefault
  | createVariable packId definition sortOrder =>
    refine (createVariable_spec hvalid (fun row hrow => (hsound.places row hrow).2) packId
      definition sortOrder).imp (by simp) ?_
    rintro row after ⟨pack, hpack, heditable, haccepted, -, -, -, rfl, -⟩
    exact .createVariable _ hpack heditable haccepted
  | updateVariable packId variableId patch =>
    refine (updateVariable_spec hvalid packId variableId patch).imp (by simp) ?_
    rintro row after ⟨pack, hpack, heditable, existing, hexisting, howner, haccepted, rfl, rfl, -⟩
    exact .updateVariable hpack heditable hexisting howner haccepted
  | deleteVariable packId variableId =>
    refine (deleteVariable_spec hvalid packId variableId).imp (by simp) ?_
    rintro _ after ⟨pack, hpack, heditable, existing, hexisting, howner, rfl, -⟩
    exact .deleteVariable hpack heditable hexisting howner
  | importPack envelope =>
    refine (importPack_spec hvalid registry envelope).imp (by simp) ?_
    rintro pack after ⟨hcheck, haccepts, default, hdefault, rfl, rfl, -⟩
    exact .importPack hcheck haccepts hdefault
  | assignPack storyId packId =>
    refine (assignPack_spec hvalid hsound.stories storyId packId).imp (by simp) ?_
    rintro row after ⟨story, -, -, -, rfl, -⟩
    exact .assignPack row
  | setStoryValues storyId values =>
    refine (setStoryValues_spec hvalid hsound.stories storyId values).imp (by simp) ?_
    rintro answer after ⟨story, -, -, -, rfl, -⟩
    exact .setStoryValues _
  | packs | template => exact hunchanged ((outcome_ask _).2 rfl)
  | pack => exact hunchanged (outcome_requirePack.2 ⟨by simp, fun _ _ => rfl⟩)
  | defaultPack => exact hunchanged (outcome_requireDefault.2 ⟨by simp, fun _ _ => rfl⟩)
  | canDeletePack | templates =>
    refine hunchanged (outcome_bind.2 (outcome_requirePack.2 ⟨by simp, ?_⟩))
    exact fun _ _ => rfl
  | «variables» =>
    refine hunchanged ?_
    rw [run, Store.variables, readVariables_eq_ask, outcome_bind, outcome_requirePack]
    exact ⟨by simp, fun _ _ => rfl⟩
  | exportPack =>
    refine hunchanged ?_
    rw [run, exportPack_eq, outcome_bind, outcome_requirePack]
    exact ⟨by simp, fun _ _ => rfl⟩
  | statuses =>
    refine hunchanged (outcome_bind.2 (outcome_requirePack.2 ⟨by simp, ?_⟩))
    simp [outcome_requireDefault]
  | story =>
    exact hunchanged ((outcome_readStory hsound.stories).2 ⟨by simp, fun _ _ => rfl⟩)
  | storyValues =>
    refine hunchanged (outcome_bind.2 ((outcome_readStory hsound.stories).2 ⟨by simp, ?_⟩))
    exact fun _ _ => rfl

/-- The same for the tables that are left, also if the request fails: then
    nothing has changed. -/
theorem effect_after (hvalid : tables.Valid) (hsound : tables.Sound registry)
    (request : Request α) : request.Effect registry tables (request.after registry tables) := by
  unfold after
  cases hrun : request.run registry tables with
  | ok result => exact (outcome_effect hvalid hsound request).of_ok hrun
  | error reason => exact .unchanged request

end Request

/-- The tables that a store can make of given ones by requests, each of which
    satisfies a condition on the tables that it meets, and by further stories. -/
inductive LeadsTo (registry : Registry) (allowed : ⦃α : Type⦄ → Tables → Request α → Prop)
    (start : Tables) : Tables → Prop where
  | start : LeadsTo registry allowed start start
  | request {tables : Tables} {α : Type} {request : Request α} (hnumbers : request.GivesNumbers)
    (hallowed : allowed tables request) (hleads : LeadsTo registry allowed start tables) :
    LeadsTo registry allowed start (request.after registry tables)
  | story {tables after : Tables} {title : String}
    {genre mode pov tense protagonistName : Option String} {packId : Int} {row : Story}
    (hrun : createStory title genre mode pov tense protagonistName packId tables =
      .ok (row, after))
    (hleads : LeadsTo registry allowed start tables) : LeadsTo registry allowed start after

/-- Any request may be made. -/
def Request.IsAny ⦃α : Type⦄ (_ : Tables) (_ : Request α) : Prop :=
  True

section

variable {registry : Registry} {allowed : ⦃α : Type⦄ → Tables → Request α → Prop}
  {start tables : Tables}

/-- What follows a reachable state is reachable. -/
theorem LeadsTo.reachable (hstart : Reachable registry start)
    (hleads : LeadsTo registry allowed start tables) : Reachable registry tables := by
  induction hleads with
  | start => exact hstart
  | request hnumbers _ _ ih => exact .request hnumbers ih
  | story hrun _ ih => exact .story hrun ih

/-- Every reachable state follows the empty store. -/
theorem Reachable.leadsTo (hreachable : Reachable registry tables) :
    LeadsTo registry Request.IsAny .empty tables := by
  induction hreachable with
  | empty => exact .start
  | request hnumbers _ ih => exact .request hnumbers trivial ih
  | story hrun _ ih => exact .story hrun ih

/-- What holds at first, and what every effect and every new story keeps, holds
    ever after. The induction over runs is made here once; an invariant is then
    two goals. -/
theorem LeadsTo.keeps (invariant : Tables → Prop) (hstart : Reachable registry start)
    (hinvariant : invariant start)
    (hrequest : ∀ {tables after : Tables} {α : Type} {request : Request α},
      Reachable registry tables → Reachable registry after → invariant tables →
        allowed tables request → request.Effect registry tables after → invariant after)
    (hstory : ∀ {tables : Tables} (row : Story), invariant tables →
      invariant (tables.addStory row))
    (hleads : LeadsTo registry allowed start tables) : invariant tables := by
  induction hleads with
  | start => exact hinvariant
  | @request tables α request hnumbers hallowed hleads ih =>
    have hreachable := hleads.reachable hstart
    exact hrequest hreachable (.request hnumbers hreachable) ih hallowed
      (request.effect_after hreachable.valid hreachable.sound)
  | story hrun hleads ih =>
    have hreachable := hleads.reachable hstart
    obtain ⟨-, -, rfl, -⟩ := (createStory_spec hreachable.valid _ _ _ _ _ _ _).of_ok hrun
    exact hstory _ ih

/-- The same for all runs from the empty store, without a condition on the
    requests. -/
theorem Reachable.keeps (invariant : Tables → Prop) (hempty : invariant .empty)
    (hrequest : ∀ {tables after : Tables} {α : Type} {request : Request α},
      Reachable registry tables → Reachable registry after → invariant tables →
        request.Effect registry tables after → invariant after)
    (hstory : ∀ {tables : Tables} (row : Story), invariant tables →
      invariant (tables.addStory row))
    (hreachable : Reachable registry tables) : invariant tables :=
  hreachable.leadsTo.keeps invariant .empty hempty
    (fun hbefore hafter hkept _ => hrequest hbefore hafter hkept) hstory

end

end PromptPacks
