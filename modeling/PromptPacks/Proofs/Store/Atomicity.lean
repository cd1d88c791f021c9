import PromptPacks.Proofs.Store.Procedures

namespace PromptPacks

open PromptPacks.Store PromptPacks.Transaction

namespace Transaction

variable {α β : Type}

theorem isQuestion_ask (question : Tables → α) : (ask question).IsQuestion :=
  fun _ => rfl

theorem isQuestion_get : (get : Transaction Tables).IsQuestion :=
  fun _ => rfl

theorem isQuestion_demand (refusal : Refusal) (question : Tables → Option α) :
    (demand refusal question).IsQuestion := by
  intro tables
  simp [outcome_demand]

/-- A rule looks at nothing in the tables and changes nothing. -/
theorem isQuestion_accept (rule : Except Refusal Unit) : (accept rule).IsQuestion := by
  intro tables
  simp [outcome_accept]

/-- To require a pack that may be edited only asks for it. -/
theorem isQuestion_requireEditable (packId : Int) : (requireEditable packId).IsQuestion := by
  intro tables
  simp [outcome_requireEditable]

/-- To require a free name only asks who has it. -/
theorem isQuestion_requireFreeName (name : String) (except : Option Int) :
    (requireFreeName name except).IsQuestion := by
  intro tables
  simp [outcome_requireFreeName]

/-- To require that no variable has a name only asks for one. -/
theorem isQuestion_requireFreeVariable (packId : Int) (name : String) :
    (requireFreeVariable packId name).IsQuestion := by
  intro tables
  simp [outcome_requireFreeVariable]

/-- Reading rows only asks. That a row might not be readable would be a failure,
    and no change. -/
theorem isQuestion_readVariables (packId : Int) : (readVariables packId).IsQuestion := by
  rw [readVariables_eq_ask]
  exact isQuestion_ask _

/-- The same for the definition of a single row. -/
theorem isQuestion_readDefinition (row : PackVariable) : (readDefinition row).IsQuestion := by
  rw [readDefinition_eq_pure]
  exact fun _ => rfl

/-- The same for all definitions of a pack. -/
theorem isQuestion_readDefinitions (packId : Int) : (readDefinitions packId).IsQuestion := by
  rw [readDefinitions_eq_ask]
  exact isQuestion_ask _

/-- The same for a story, whose values may turn out not to be readable. -/
theorem isQuestion_readStory (storyId : Int) : (readStory storyId).IsQuestion :=
  fun _ => readStory_unchanged

theorem isQuestion_requireVariable (packId variableId : Int) :
    (requireVariable packId variableId).IsQuestion :=
  fun _ => outcome_requireVariable trivial fun _ _ _ => rfl

/-- The check of a template reads the registry and the template, and changes
    nothing. -/
theorem isQuestion_acceptTemplate (registry : Registry) (declared : List String)
    (templateId content : String) :
    (acceptTemplate registry declared templateId content).IsQuestion :=
  fun _ => outcome_acceptTemplate (fun _ => trivial) fun _ => rfl

theorem isQuestion_acceptFor (registry : Registry) (packId : Int) (templateId content : String) :
    (acceptFor registry packId templateId content).IsQuestion := by
  intro tables
  rw [acceptFor_eq, outcome_bind, outcome_ask]
  exact isQuestion_acceptTemplate _ _ _ _ tables

end Transaction

namespace Procedure

variable {α β : Type}

section Rules

variable {isOpen : Bool} {request : Transaction α} {part rest : Procedure α}

/-- A question may be asked before the transaction begins, since nothing has
    been written that a failure would have to take back. The rest has to
    complete the request from there. -/
theorem completes_question {second : α → Procedure β} {next : α → Transaction β}
    (hquestion : request.IsQuestion)
    (hsecond : ∀ answer, (second answer).Completes false (next answer)) :
    (step request >>= second).Completes false (request >>= next) :=
  (mirrors_question hquestion).completes hsecond

/-- Inside the transaction any step may come, as whatever it has written is
    taken back on a failure. -/
theorem completes_step {second : α → Procedure β} {next : α → Transaction β}
    (hsecond : ∀ answer, (second answer).Completes true (next answer)) :
    (step request >>= second).Completes true (request >>= next) :=
  (mirrors_step request).completes hsecond

/-- Noting the time of a change adds a step that may fail, and no change. -/
theorem completes_touch (hrest : rest.Completes true request) :
    (touch >>= fun _ => rest).Completes true request :=
  (mirrors_step (pure ())).completes fun _ => hrest

/-- Nothing follows a refusal. What is written behind it may be anything. -/
theorem completes_refuse_bind (refusal : Refusal) (after : α → Procedure β)
    (next : α → Transaction β) :
    ((throw (.refused refusal) : Procedure α) >>= after).Completes isOpen
      ((refuse refusal : Transaction α) >>= next) :=
  fun _ _ => ⟨rfl, fun _ => rfl⟩

/-- A transaction ends with the answer of its last part. The commit is the last
    thing that can fail, and it comes behind all writes. -/
theorem Mirrors.completes_commit (hpart : part.Mirrors true request) :
    (part >>= fun answer => commit >>= fun _ => pure answer).Completes true request := by
  have hcompletes := hpart.completes Procedure.completes_commit
  rwa [bind_pure] at hcompletes

/-- The same with the time noted before the commit. -/
theorem Mirrors.completes_touch_commit (hpart : part.Mirrors true request) :
    (part >>= fun answer => touch >>= fun _ => commit >>= fun _ => pure answer).Completes true
      request := by
  have hcompletes := hpart.completes fun answer =>
    completes_touch (Procedure.completes_commit answer)
  rwa [bind_pure] at hcompletes

/-- A loop mirrors a loop if each of its turns mirrors the turn. The induction
    is on the items. -/
theorem mirrors_forM {γ : Type} {step : γ → Procedure PUnit} {next : γ → Transaction PUnit}
    (hstep : ∀ item, (step item).Mirrors isOpen (next item)) (items : List γ) :
    (items.forM step).Mirrors isOpen (items.forM next) := by
  induction items with
  | nil => exact mirrors_pure _
  | cons item items ih => exact (hstep item).bind fun _ => ih

/-- The same for a loop that hands on a result. -/
theorem mirrors_foldlM {γ δ : Type} {step : δ → γ → Procedure δ} {next : δ → γ → Transaction δ}
    (hstep : ∀ result item, (step result item).Mirrors isOpen (next result item)) (items : List γ)
    (result : δ) : (items.foldlM step result).Mirrors isOpen (items.foldlM next result) := by
  induction items generalizing result with
  | nil => exact mirrors_pure result
  | cons item items ih => exact (hstep result item).bind ih

end Rules

/-- Making the default pack where there is none mirrors the request, in two
    steps at most. -/
theorem mirrors_defaultOrNew : defaultOrNew.Mirrors true Store.defaultOrNew := by
  refine (mirrors_step _).bind fun found => ?_
  cases found with
  | some pack => exact mirrors_pure (pack, false)
  | none =>
    refine (mirrors_step _).bind fun names => ?_
    exact (mirrors_step _).bind fun pack => mirrors_pure (pack, true)

/-- One shipped template is looked for and then inserted, replaced or left. -/
theorem mirrors_seedTemplate (report : SeedReport) (shipped : ShippedTemplate) :
    (seedTemplate report shipped).Mirrors true (Store.seedTemplate report shipped) := by
  refine (mirrors_step _).bind fun found => ?_
  cases found with
  | some existing =>
    dsimp only
    split_ifs
    · exact mirrors_pure report
    · exact (mirrors_step _).bind fun _ => mirrors_pure _
  | none => exact (mirrors_step _).bind fun _ => mirrors_pure _

/-- A seeding runs in one transaction from its first step to its last. -/
theorem seed_completes : seed.Completes false Store.seed := by
  refine completes_start (mirrors_defaultOrNew.completes fun found => ?_)
  obtain ⟨pack, created⟩ := found
  exact (mirrors_foldlM mirrors_seedTemplate _ _).completes_commit

/-- A pack and the copies of its templates are stored together or not at all. -/
theorem createPack_completes (name : String) (description author : Option String) :
    (createPack name description author).Completes false
      (Store.createPack name description author) := by
  refine completes_question (isQuestion_accept _) fun _ => ?_
  refine completes_question (isQuestion_accept _) fun _ => ?_
  refine completes_question (isQuestion_accept _) fun _ => ?_
  refine completes_question (isQuestion_requireFreeName _ _) fun _ => ?_
  refine completes_question (isQuestion_demand _ _) fun default => ?_
  refine completes_start (completes_step fun pack => ?_)
  exact completes_step fun _ => completes_step fun _ => completes_commit pack

/-- The rules are asked first, and the row is written in one step. The name has
    rules of its own, which are asked only if there is a new one. -/
theorem updatePack_completes (packId : Int) (name description author : Option String) :
    (updatePack packId name description author).Completes false
      (Store.updatePack packId name description author) := by
  refine completes_question (isQuestion_requireEditable _) fun pack => ?_
  have hwrite : ∀ row : Pack, (do
      step (accept (checkFreeText "Description" description))
      step (accept (checkFreeText "Author" author))
      start
      step (change (·.replacePack? row))
      commit
      return row : Procedure Pack).Completes false (do
        accept (checkFreeText "Description" description)
        accept (checkFreeText "Author" author)
        change (·.replacePack? row)
        return row) := by
    intro row
    refine completes_question (isQuestion_accept _) fun _ => ?_
    refine completes_question (isQuestion_accept _) fun _ => ?_
    exact completes_start (completes_step fun _ => completes_commit row)
  cases name with
  | none => exact hwrite _
  | some name =>
    refine completes_question (isQuestion_accept _) fun _ => ?_
    exact completes_question (isQuestion_requireFreeName _ _) fun _ => hwrite _

/-- What a change makes of the tables is all that remains of it. Changes that
    come to the same tables may be exchanged. -/
theorem change_eq_of_update_eq {update : Tables → Option Tables} {tables other : Tables}
    (hupdate : update tables = update other) : change update tables = change update other := by
  rw [change_apply, change_apply, hupdate]

/-- A pack whose templates and variables are gone is deleted under the same
    condition and with the same result. -/
theorem deletePack?_eq_steps (packId : Int) :
    change (·.deletePack? packId) = (do
      modify (·.deleteTemplates (·.packId == packId))
      modify (·.deleteVariables (·.packId == packId))
      change (·.deletePack? packId)
      return () : Transaction Unit) := by
  funext tables
  rw [bind_pure_unit]
  refine (@change_eq_of_update_eq (·.deletePack? packId) _ tables ?_).symm
  simp [Tables.deletePack?, Tables.deleteTemplates, Tables.deleteVariables, List.filter_filter,
    bne]

/-- The rows of a pack go in the transaction in which the pack goes. -/
theorem deletePack_completes (packId : Int) :
    (deletePack packId).Completes false (Store.deletePack packId) := by
  refine completes_question (isQuestion_demand _ _) fun pack => ?_
  split_ifs
  · exact completes_refuse_bind _ _ _
  refine completes_question (isQuestion_ask _) fun count => ?_
  split_ifs
  · exact completes_refuse_bind _ _ _
  refine Eq.subst (motive := Completes false _) (deletePack?_eq_steps packId).symm ?_
  refine completes_start (completes_step fun _ => completes_step fun _ => ?_)
  exact completes_step fun _ => completes_commit ()

/-- Asking whether a pack may be deleted is reading only, so it needs no
    transaction. -/
theorem mirrors_canDeletePack (packId : Int) :
    (canDeletePack packId).Mirrors false (Store.canDeletePack packId) := by
  refine (mirrors_question (isQuestion_demand _ _)).bind fun pack => ?_
  exact (mirrors_question (isQuestion_ask _)).bind fun count => mirrors_pure _

/-- Listing templates is reading only. -/
theorem mirrors_templates (packId : Int) :
    (templates packId).Mirrors false (Store.templates packId) :=
  (mirrors_question (isQuestion_demand _ _)).bind fun _ => mirrors_question (isQuestion_ask _)

/-- Listing variables is reading only. -/
theorem mirrors_variables (packId : Int) :
    («variables» packId).Mirrors false (Store.variables packId) :=
  (mirrors_question (isQuestion_demand _ _)).bind fun _ =>
    mirrors_question (isQuestion_readVariables packId)

/-- Listing statuses is reading only, although two packs are read. -/
theorem mirrors_statuses (packId : Int) :
    (statuses packId).Mirrors false (Store.statuses packId) := by
  refine (mirrors_question (isQuestion_demand _ _)).bind fun pack => ?_
  refine (mirrors_question (isQuestion_ask _)).bind fun rows => ?_
  split_ifs
  · exact mirrors_pure _
  refine (mirrors_question (isQuestion_demand _ _)).bind fun default => ?_
  exact (mirrors_question isQuestion_get).bind fun tables => mirrors_pure _

/-- An export is reading only. -/
theorem mirrors_exportPack (packId : Int) :
    (exportPack packId).Mirrors false (Store.exportPack packId) := by
  refine (mirrors_question (isQuestion_demand _ _)).bind fun pack => ?_
  refine (mirrors_question (isQuestion_ask _)).bind fun templates => ?_
  refine (mirrors_question (isQuestion_readVariables packId)).bind fun rows => ?_
  refine (mirrors_question ?_).bind fun exported => mirrors_pure _
  simp only [readDefinition_eq_pure, pure_bind, List.mapM_pure]
  exact fun _ => rfl

/-- Asking for the values of a story is reading only. -/
theorem mirrors_storyValues (storyId : Int) :
    (storyValues storyId).Mirrors false (Store.storyValues storyId) :=
  (mirrors_question (isQuestion_readStory storyId)).bind fun story => mirrors_pure story.values

/-- All checks of a template come before the transaction, in which it is
    written. -/
theorem setTemplate_completes (registry : Registry) (packId : Int)
    (templateId content : String) :
    (setTemplate registry packId templateId content).Completes false
      (Store.setTemplate registry packId templateId content) := by
  unfold setTemplate Store.setTemplate
  split_ifs
  · exact completes_refuse_bind _ _ _
  refine completes_question (isQuestion_requireEditable _) fun _ => ?_
  refine completes_question (isQuestion_acceptFor _ _ _ _) fun _ => ?_
  exact completes_start (mirrors_step _).completes_touch_commit

/-- The baseline is found before the transaction, and then put in it. -/
theorem resetTemplate_completes (packId : Int) (templateId : String) :
    (resetTemplate packId templateId).Completes false (Store.resetTemplate packId templateId) := by
  refine completes_question (isQuestion_requireEditable _) fun _ => ?_
  refine completes_question (isQuestion_demand _ _) fun default => ?_
  refine completes_question (isQuestion_demand _ _) fun baseline => ?_
  exact completes_start (mirrors_step _).completes_touch_commit

/-- All templates that differ are put in one transaction, so a reset never stops
    halfway. -/
theorem resetAll_completes (packId : Int) :
    (resetAll packId).Completes false (Store.resetAll packId) := by
  refine completes_question (isQuestion_requireEditable _) fun _ => ?_
  refine completes_question (isQuestion_demand _ _) fun default => ?_
  refine completes_question (isQuestion_ask _) fun baseline => ?_
  refine completes_question isQuestion_get fun tables => completes_start ?_
  refine (mirrors_forM (fun row => ?_) _).completes fun _ => ?_
  · exact (mirrors_step _).bind fun _ => mirrors_pure ()
  split_ifs
  · exact completes_touch (completes_commit _)
  · exact completes_commit _

/-- The definition is checked first. The next place is found in the transaction
    that uses it. -/
theorem createVariable_completes (packId : Int) (definition : VariableDefinition)
    (sortOrder : Option Int) :
    (createVariable packId definition sortOrder).Completes false
      (Store.createVariable packId definition sortOrder) := by
  refine completes_question (isQuestion_requireEditable _) fun _ => ?_
  refine completes_question (isQuestion_accept _) fun _ => ?_
  refine completes_question (isQuestion_requireFreeVariable _ _) fun _ => completes_start ?_
  cases sortOrder with
  | some place => exact (mirrors_step _).completes_touch_commit
  | none => exact completes_step fun place => (mirrors_step _).completes_touch_commit

/-- The row that is read before the transaction is the one that is written in
    it. -/
theorem updateVariable_completes (packId variableId : Int) (patch : VariablePatch) :
    (updateVariable packId variableId patch).Completes false
      (Store.updateVariable packId variableId patch) := by
  refine completes_question (isQuestion_requireEditable _) fun _ => ?_
  refine completes_question (isQuestion_requireVariable _ _) fun existing => ?_
  refine completes_question (isQuestion_readDefinition _) fun definition => ?_
  refine completes_question (isQuestion_accept _) fun _ => ?_
  have hwrite : ∀ row : PackVariable, (do
      start
      step (change (·.replaceVariable? row))
      touch
      commit
      return row : Procedure PackVariable).Completes false (do
        change (·.replaceVariable? row)
        return row) :=
    fun row => completes_start (completes_step fun _ => completes_touch (completes_commit row))
  split_ifs
  · exact completes_question (isQuestion_requireFreeVariable _ _) fun _ => hwrite _
  · exact hwrite _

/-- The obstacles are looked for before the transaction. -/
theorem deleteVariable_completes (packId variableId : Int) :
    (deleteVariable packId variableId).Completes false
      (Store.deleteVariable packId variableId) := by
  refine completes_question (isQuestion_requireEditable _) fun _ => ?_
  refine completes_question (isQuestion_requireVariable _ _) fun existing => ?_
  exact completes_start (mirrors_step _).completes_touch_commit

/-- The envelope is checked before the transaction. In it the pack, its
    templates, the missing ones and the variables are written, all or none. -/
theorem importPack_completes (registry : Registry) (envelope : Envelope) :
    (importPack registry envelope).Completes false (Store.importPack registry envelope) := by
  have hput : ∀ packId templateId content hash, (do
      let _ ← step (putTemplate packId templateId content hash)
      pure () : Procedure Unit).Mirrors true (do
        let _ ← putTemplate packId templateId content hash
        pure ()) :=
    fun _ _ _ _ => (mirrors_step _).bind fun _ => mirrors_pure ()
  refine completes_question (isQuestion_accept _) fun _ => ?_
  refine (mirrors_forM (fun template => ?_) _).completes fun _ => ?_
  · exact mirrors_question (isQuestion_acceptTemplate _ _ _ _)
  refine completes_question (isQuestion_demand _ _) fun default => completes_start ?_
  refine completes_step fun names => completes_step fun pack => ?_
  refine (mirrors_forM (fun template => hput _ _ _ _) _).completes fun _ => ?_
  refine completes_step fun rows => ?_
  refine (mirrors_forM (fun row => hput _ _ _ _) _).completes fun _ => ?_
  refine (mirrors_forM (fun exported => ?_) _).completes fun _ => completes_commit pack
  exact (mirrors_step _).bind fun _ => mirrors_pure ()

/-- Both rows are looked for first, and the story is written in one step. -/
theorem assignPack_completes (storyId packId : Int) :
    (assignPack storyId packId).Completes false (Store.assignPack storyId packId) := by
  refine completes_question (isQuestion_demand _ _) fun _ => ?_
  refine completes_question (isQuestion_readStory _) fun story => ?_
  exact completes_start (completes_step fun _ => completes_commit _)

/-- The values are checked as a whole before any of them is stored. -/
theorem setStoryValues_completes (storyId : Int) (values : Dictionary Json) :
    (setStoryValues storyId values).Completes false (Store.setStoryValues storyId values) := by
  refine completes_question (isQuestion_readStory _) fun story => ?_
  refine completes_question (isQuestion_readDefinitions _) fun declared => ?_
  refine completes_question (isQuestion_accept _) fun _ => ?_
  exact completes_start (completes_step fun _ => completes_commit values)

end Procedure

namespace Request

open Procedure

variable {α : Type}

/-- Every request is a procedure that completes it. The requests are gone
    through here once, and all that is said of faults and rollbacks follows for
    each of them. -/
theorem procedure_completes (registry : Registry) (request : Request α) :
    (request.procedure registry).Completes false (request.run registry) := by
  cases request with
  | seed => exact seed_completes
  | createPack name description author => exact createPack_completes name description author
  | updatePack packId name description author =>
    exact updatePack_completes packId name description author
  | deletePack packId => exact deletePack_completes packId
  | setTemplate packId templateId content =>
    exact setTemplate_completes registry packId templateId content
  | resetTemplate packId templateId => exact resetTemplate_completes packId templateId
  | resetAll packId => exact resetAll_completes packId
  | createVariable packId definition sortOrder =>
    exact createVariable_completes packId definition sortOrder
  | updateVariable packId variableId patch => exact updateVariable_completes packId variableId patch
  | deleteVariable packId variableId => exact deleteVariable_completes packId variableId
  | importPack envelope => exact importPack_completes registry envelope
  | assignPack storyId packId => exact assignPack_completes storyId packId
  | setStoryValues storyId values => exact setStoryValues_completes storyId values
  | packs => exact (mirrors_question (isQuestion_ask _)).completes_of_closed
  | template packId templateId =>
    exact (mirrors_question (isQuestion_ask (·.template? packId templateId))).completes_of_closed
  | pack | defaultPack =>
    exact (mirrors_question (isQuestion_demand _ _)).completes_of_closed
  | story storyId => exact (mirrors_question (isQuestion_readStory storyId)).completes_of_closed
  | canDeletePack packId => exact (mirrors_canDeletePack packId).completes_of_closed
  | templates packId => exact (mirrors_templates packId).completes_of_closed
  | «variables» packId => exact (mirrors_variables packId).completes_of_closed
  | statuses packId => exact (mirrors_statuses packId).completes_of_closed
  | exportPack packId => exact (mirrors_exportPack packId).completes_of_closed
  | storyValues storyId => exact (mirrors_storyValues storyId).completes_of_closed

/-- A request that is refused fails at some step too, and nothing of it is
    stored. Which step fails first may depend on the faults, but the tables do
    not. -/
theorem perform_of_run_eq_error (registry : Registry) (request : Request α) {tables : Tables}
    {reason : StoreFailure}
    (hrun : request.run registry tables = .error reason) (faults : Nat → Bool) :
    ∃ fault, (request.procedure registry).perform faults tables = (.error fault, tables) := by
  have hends := procedure_completes registry request ⟨tables, none, faults⟩ rfl
  rw [Procedure.perform]
  unfold Procedure.Ends at hends
  split at hends
  case _ answer after hresult =>
    cases hrun.symm.trans hends.2
  case _ fault after hresult =>
    exact ⟨fault, by rw [hresult]; exact congrArg _ hends.1⟩

/-- A request is carried out as a whole or not at all, whatever step of it
    fails: with an error, all rows and all counters are as before. Else the
    tables are those that the request leads to, and an error without a fault is
    one that the request leads to. -/
theorem perform_ok_or_unchanged (registry : Registry) (request : Request α) (faults : Nat → Bool)
    (tables : Tables) :
    (∃ answer after, (request.procedure registry).perform faults tables = (.ok answer, after) ∧
        request.run registry tables = .ok (answer, after)) ∨
      ∃ reason, (request.procedure registry).perform faults tables = (.error reason, tables) ∧
        ((∀ n, faults n = false) → request.run registry tables = .error reason) := by
  have hends := procedure_completes registry request ⟨tables, none, faults⟩ rfl
  rw [perform]
  unfold Ends at hends
  split at hends
  case _ answer after hresult =>
    obtain ⟨hclosed, hrun⟩ := hends
    refine .inl ⟨answer, after.stored, by rw [hresult], ?_⟩
    rwa [Session.tables, Session.tables, hclosed, Option.getD_none] at hrun
  case _ reason after hresult =>
    obtain ⟨hstored, hfails⟩ := hends
    exact .inr ⟨reason, by rw [hresult]; exact congrArg _ hstored, hfails⟩

/-- When the creation of a pack is interrupted, the pack has been added already,
    but only to the transaction. -/
example : ((createPack "Noir" none none).procedure .empty
    ⟨Reachable.sample, none, (· == 7)⟩).2.working.map (·.packs.length) = some 3 := by
  decide +kernel

end Request

end PromptPacks
