import PromptPacks.Store.Transaction

namespace PromptPacks.Transaction

/-- What a request does to some tables: it succeeds with an answer and tables that
    satisfy `success`, or it fails for a reason that satisfies `failure`. -/
def Outcome {α : Type} (request : Transaction α) (tables : Tables)
    (failure : StoreFailure → Prop) (success : α → Tables → Prop) : Prop :=
  match request tables with
  | .ok (answer, after) => success answer after
  | .error reason => failure reason

section Rules

variable {α β : Type} {tables : Tables} {failure : StoreFailure → Prop}

/-- What is known of a request says what its success says. -/
theorem Outcome.of_ok {request : Transaction α} {success : α → Tables → Prop} {answer : α}
    {after : Tables} (houtcome : request.Outcome tables failure success)
    (hrun : request tables = .ok (answer, after)) : success answer after := by
  simpa only [Outcome, hrun] using houtcome

/-- What is known of a request says what its failure says. -/
theorem Outcome.of_error {request : Transaction α} {success : α → Tables → Prop}
    {reason : StoreFailure} (houtcome : request.Outcome tables failure success)
    (hrun : request tables = .error reason) : failure reason := by
  simpa only [Outcome, hrun] using houtcome

/-- To know a request, its success and its failure can be looked at separately. -/
theorem outcome_of_run {request : Transaction α} {success : α → Tables → Prop}
    (hfailure : ∀ reason, request tables = .error reason → failure reason)
    (hsuccess : ∀ answer after, request tables = .ok (answer, after) → success answer after) :
    request.Outcome tables failure success := by
  unfold Outcome
  cases hrun : request tables with
  | ok result => exact hsuccess result.1 result.2 hrun
  | error reason => exact hfailure reason hrun

/-- A request that cannot fail gives the only answer and the only tables that it
    can give. -/
theorem Outcome.eq_ok {request : Transaction α} {answer : α} {after : Tables}
    (houtcome : request.Outcome tables (fun _ => False) fun a t => a = answer ∧ t = after) :
    request tables = .ok (answer, after) := by
  unfold Outcome at houtcome
  cases hrun : request tables with
  | ok result =>
    rw [hrun] at houtcome
    obtain ⟨rfl, rfl⟩ := houtcome
    rfl
  | error reason =>
    rw [hrun] at houtcome
    exact houtcome.elim

/-- That a request has succeeded can be decided, so it can be seen by
    evaluation. -/
theorem exists_eq_ok_of_isOk {request : Transaction α} (hok : (request tables).isOk = true) :
    ∃ answer after, request tables = .ok (answer, after) := by
  cases hrun : request tables with
  | ok result => exact ⟨result.1, result.2, rfl⟩
  | error reason =>
    rw [hrun] at hok
    cases hok

/-- A request that cannot succeed fails for the only reason that it can fail
    for. -/
theorem Outcome.eq_error {request : Transaction α} {reason : StoreFailure}
    (houtcome : request.Outcome tables (· = reason) fun _ _ => False) :
    request tables = .error reason := by
  unfold Outcome at houtcome
  cases hrun : request tables with
  | ok result =>
    rw [hrun] at houtcome
    exact houtcome.elim
  | error other =>
    rw [hrun] at houtcome
    exact congrArg Except.error houtcome

/-- Behind a success the next request runs on what has been left. -/
theorem bind_eq_of_ok {request : Transaction α} {next : α → Transaction β} {answer : α}
    {after : Tables} (hrun : request tables = .ok (answer, after)) :
    (request >>= next) tables = next answer after := by
  simp only [Bind.bind, StateT.bind, Except.bind, hrun]

/-- Behind a failure nothing runs. -/
theorem bind_eq_of_error {request : Transaction α} {next : α → Transaction β}
    {reason : StoreFailure} (hrun : request tables = .error reason) :
    (request >>= next) tables = .error reason := by
  simp only [Bind.bind, StateT.bind, Except.bind, hrun]

/-- What is known of a request may be weakened, for failure and success alike. -/
theorem Outcome.imp {request : Transaction α} {success success' : α → Tables → Prop}
    {failure' : StoreFailure → Prop} (houtcome : request.Outcome tables failure success)
    (hfailure : ∀ reason, failure reason → failure' reason)
    (hsuccess : ∀ answer after, success answer after → success' answer after) :
    request.Outcome tables failure' success' := by
  unfold Outcome at houtcome ⊢
  cases hrun : request tables with
  | ok result =>
    rw [hrun] at houtcome
    exact hsuccess result.1 result.2 houtcome
  | error reason =>
    rw [hrun] at houtcome
    exact hfailure reason houtcome

/-- The same if only success is to be weakened. -/
theorem Outcome.imp_success {request : Transaction α} {success success' : α → Tables → Prop}
    (houtcome : request.Outcome tables failure success)
    (hsuccess : ∀ answer after, success answer after → success' answer after) :
    request.Outcome tables failure success' :=
  houtcome.imp (fun _ => id) hsuccess

@[simp]
theorem outcome_pure {success : α → Tables → Prop} (answer : α) :
    (pure answer : Transaction α).Outcome tables failure success ↔ success answer tables :=
  Iff.rfl

/-- A request of two parts does what its first part does, and from there what
    the second one does. -/
@[simp]
theorem outcome_bind {first : Transaction α} {second : α → Transaction β}
    {success : β → Tables → Prop} :
    (first >>= second).Outcome tables failure success ↔
      first.Outcome tables failure fun answer after =>
        (second answer).Outcome after failure success := by
  simp only [Outcome, bind, StateT.bind, Except.bind]
  cases first tables <;> rfl

@[simp]
theorem outcome_map {request : Transaction α} {f : α → β} {success : β → Tables → Prop} :
    (f <$> request).Outcome tables failure success ↔
      request.Outcome tables failure fun answer after => success (f answer) after := by
  rw [map_eq_pure_bind, outcome_bind]
  exact Iff.rfl

@[simp]
theorem outcome_throw {success : α → Tables → Prop} (reason : StoreFailure) :
    (throw reason : Transaction α).Outcome tables failure success ↔ failure reason :=
  Iff.rfl

@[simp]
theorem outcome_refuse {success : α → Tables → Prop} (refusal : Refusal) :
    (refuse refusal : Transaction α).Outcome tables failure success ↔ failure (.refused refusal) :=
  Iff.rfl

@[simp]
theorem outcome_get {success : Tables → Tables → Prop} :
    (get : Transaction Tables).Outcome tables failure success ↔ success tables tables :=
  Iff.rfl

@[simp]
theorem outcome_modify {success : PUnit → Tables → Prop} (update : Tables → Tables) :
    (modify update : Transaction PUnit).Outcome tables failure success ↔
      success () (update tables) :=
  Iff.rfl

/-- A question is answered from the tables and leaves them as they are. It never
    fails. -/
@[simp]
theorem outcome_ask {success : α → Tables → Prop} (question : Tables → α) :
    (ask question).Outcome tables failure success ↔ success (question tables) tables :=
  Iff.rfl

/-- A condition in a request is a condition on what is known of it. -/
@[simp]
theorem outcome_ite {success : α → Tables → Prop} {condition : Prop} [Decidable condition]
    {yes no : Transaction α} :
    (if condition then yes else no).Outcome tables failure success ↔
      (condition → yes.Outcome tables failure success) ∧
        (¬condition → no.Outcome tables failure success) := by
  by_cases hcondition : condition <;> simp [hcondition]

/-- A loop over nothing does nothing. -/
@[simp]
theorem outcome_forM_nil {step : α → Transaction PUnit} {success : PUnit → Tables → Prop} :
    (([] : List α).forM step).Outcome tables failure success ↔ success () tables :=
  Iff.rfl

/-- A loop does its first turn, and then the others on what that has left. No
    invariant is needed where the items are known. -/
@[simp]
theorem outcome_forM_cons {step : α → Transaction PUnit} {item : α} {items : List α}
    {success : PUnit → Tables → Prop} :
    ((item :: items).forM step).Outcome tables failure success ↔
      (step item).Outcome tables failure fun _ after =>
        (items.forM step).Outcome after failure success :=
  outcome_bind

/-- A rule that is broken refuses the request, and one that is kept leaves it as
    it is. -/
theorem outcome_accept {success : Unit → Tables → Prop} (rule : Except Refusal Unit) :
    (accept rule).Outcome tables failure success ↔
      (∀ refusal, rule = .error refusal → failure (.refused refusal)) ∧
        (rule = .ok () → success () tables) := by
  cases rule with
  | ok _ => simp [accept]
  | error refusal => simp [accept]

theorem get_apply (tables : Tables) : (get : Transaction Tables) tables = .ok (tables, tables) :=
  rfl

/-- A demand fails where the question has no answer. -/
theorem demand_apply (refusal : Refusal) (question : Tables → Option α) (tables : Tables) :
    demand refusal question tables =
      (question tables).elim (.error (.refused refusal)) fun answer => .ok (answer, tables) := by
  rw [demand, bind_eq_of_ok (get_apply tables)]
  cases question tables <;> rfl

/-- Behind a demand the answer is at hand. -/
theorem outcome_demand {success : α → Tables → Prop} (refusal : Refusal)
    (question : Tables → Option α) :
    (demand refusal question).Outcome tables failure success ↔
      (question tables = none → failure (.refused refusal)) ∧
        ∀ answer, question tables = some answer → success answer tables := by
  rw [demand, outcome_bind, outcome_get]
  cases question tables <;> simp

/-- A change that the tables do not allow is a failure of the storage. -/
theorem change_apply (update : Tables → Option Tables) (tables : Tables) :
    change update tables = (update tables).elim (.error .storage) fun after => .ok ((), after) := by
  rw [change, bind_eq_of_ok (get_apply tables)]
  cases update tables <;> rfl

/-- Behind a change the tables are what it makes of them. That it is allowed has
    to be shown where it is used. -/
theorem outcome_change {success : Unit → Tables → Prop} (update : Tables → Option Tables) :
    (change update).Outcome tables failure success ↔
      (update tables = none → failure .storage) ∧
        ∀ after, update tables = some after → success () after := by
  rw [change, outcome_bind, outcome_get]
  cases update tables with
  | none => simp
  | some after =>
    simp only [reduceCtorEq, false_implies, Option.some.injEq, true_and, forall_eq']
    exact Iff.rfl

/-- The same for an insertion, which hands back the new row. Refusing a row is
    the only way in which it fails. -/
theorem outcome_add {success : α → Tables → Prop} (insert : Tables → Option (α × Tables)) :
    (add insert).Outcome tables failure success ↔
      (insert tables = none → failure .storage) ∧
        ∀ row after, insert tables = some (row, after) → success row after := by
  rw [add, outcome_bind, outcome_get]
  cases insert tables with
  | none => simp
  | some result =>
    obtain ⟨row, after⟩ := result
    simp only [reduceCtorEq, false_implies, Option.some.injEq, Prod.mk.injEq, true_and]
    constructor
    · rintro hsuccess _ _ ⟨rfl, rfl⟩
      exact hsuccess
    · intro hsuccess
      exact hsuccess row after ⟨rfl, rfl⟩

end Rules

end PromptPacks.Transaction
