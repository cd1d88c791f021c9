import PromptPacks.Proofs.Store.Records
import PromptPacks.Store.Packs

namespace PromptPacks

/-- A condition for a request, with the refusal of one that does not meet it. -/
structure Condition where
  holds : Prop
  refusal : Refusal

/-- A refusal is that of the first of some conditions that does not hold. -/
inductive FirstBroken : List Condition → Refusal → Prop where
  | here {condition : Condition} {rest : List Condition} (hbroken : ¬condition.holds) :
    FirstBroken (condition :: rest) condition.refusal
  | later {condition : Condition} {rest : List Condition} {refusal : Refusal}
    (hholds : condition.holds) (hrest : FirstBroken rest refusal) :
    FirstBroken (condition :: rest) refusal

namespace FirstBroken

variable {conditions : List Condition} {a b : Refusal}

/-- Only one condition is the first that is broken, so the refusal is
    determined. -/
theorem unique (ha : FirstBroken conditions a) (hb : FirstBroken conditions b) : a = b := by
  induction ha with
  | here hbroken =>
    cases hb with
    | here => rfl
    | later hholds => exact absurd hholds hbroken
  | later hholds _ ih =>
    cases hb with
    | here hbroken => exact absurd hholds hbroken
    | later _ hrest => exact ih hrest

/-- If some condition is the first that is broken, not all of them hold. -/
theorem exists_not_holds (ha : FirstBroken conditions a) :
    ∃ condition ∈ conditions, ¬condition.holds := by
  induction ha with
  | here hbroken => exact ⟨_, List.mem_cons_self, hbroken⟩
  | later _ _ ih =>
    obtain ⟨condition, hmem, hbroken⟩ := ih
    exact ⟨condition, List.mem_cons_of_mem _ hmem, hbroken⟩

end FirstBroken

namespace Transaction

open PromptPacks.Template

section

variable {α : Type} {request : Transaction α} {tables : Tables} {conditions : List Condition}
  {success : α → Tables → Prop}
  (houtcome : request.Outcome tables
    (fun reason => ∃ refusal, reason = .refused refusal ∧ FirstBroken conditions refusal)
    fun answer after => (∀ condition ∈ conditions, condition.holds) ∧ success answer after)

include houtcome

/-- A request that is turned down only for a broken condition succeeds where all
    of them hold. The converse is part of what it does on success. -/
theorem Outcome.eq_ok_iff_holds :
    (∃ answer after, request tables = .ok (answer, after)) ↔
      ∀ condition ∈ conditions, condition.holds := by
  constructor
  · rintro ⟨answer, after, hrun⟩
    exact (houtcome.of_ok hrun).1
  · intro hall
    cases hrun : request tables with
    | ok result => exact ⟨result.1, result.2, rfl⟩
    | error reason =>
      obtain ⟨refusal, -, hbroken⟩ := houtcome.of_error hrun
      obtain ⟨condition, hmem, hbreaks⟩ := hbroken.exists_not_holds
      exact absurd (hall condition hmem) hbreaks

/-- Such a request is turned down for the first condition that is broken, and
    for no other reason. -/
theorem Outcome.eq_error_iff_firstBroken {reason : StoreFailure} :
    request tables = .error reason ↔
      ∃ refusal, reason = .refused refusal ∧ FirstBroken conditions refusal := by
  constructor
  · exact houtcome.of_error
  · rintro ⟨refusal, rfl, hbroken⟩
    cases hrun : request tables with
    | ok result =>
      obtain ⟨condition, hmem, hbreaks⟩ := hbroken.exists_not_holds
      exact absurd ((houtcome.of_ok hrun).1 condition hmem) hbreaks
    | error reason =>
      obtain ⟨other, rfl, hother⟩ := houtcome.of_error hrun
      rw [hbroken.unique hother]

end

section

variable {tables : Tables} {failure : StoreFailure → Prop}

/-- Behind this guard the pack exists and is at hand. -/
theorem outcome_requirePack {packId : Int} {success : Pack → Tables → Prop} :
    (requirePack packId).Outcome tables failure success ↔
      (tables.pack? packId = none → failure (.refused (.notFound .pack (toString packId)))) ∧
        ∀ pack, tables.pack? packId = some pack → success pack tables :=
  outcome_demand _ _

/-- A pack is open to changes if it exists and is not the default one. The two
    refusals come in this order. -/
theorem outcome_requireEditable {packId : Int} {success : Pack → Tables → Prop} :
    (requireEditable packId).Outcome tables failure success ↔
      (tables.pack? packId = none → failure (.refused (.notFound .pack (toString packId)))) ∧
        ∀ pack, tables.pack? packId = some pack →
          (pack.isDefault = true → failure (.refused (.violation .readOnlyDefault))) ∧
            (pack.isDefault = false → success pack tables) := by
  simp only [requireEditable, outcome_bind, outcome_requirePack, outcome_ite, outcome_refuse,
    outcome_pure, Bool.not_eq_true]

/-- Behind this guard there is a default pack. -/
theorem outcome_requireDefault {success : Pack → Tables → Prop} :
    requireDefault.Outcome tables failure success ↔
      (tables.defaultPack? = none → failure (.refused (.notFound .pack "default"))) ∧
        ∀ pack, tables.defaultPack? = some pack → success pack tables :=
  outcome_demand _ _

/-- Where the pack is known and may be edited, the guard is passed. -/
theorem outcome_requireEditable_of_pack? {packId : Int} {pack : Pack}
    (hpack : tables.pack? packId = some pack) (heditable : pack.isDefault = false)
    {success : Pack → Tables → Prop} :
    (requireEditable packId).Outcome tables failure success ↔ success pack tables := by
  rw [outcome_requireEditable, hpack]
  simp [heditable]

/-- Where the default pack is known, the guard is passed. -/
theorem outcome_requireDefault_of_defaultPack? {default : Pack}
    (hdefault : tables.defaultPack? = some default) {success : Pack → Tables → Prop} :
    requireDefault.Outcome tables failure success ↔ success default tables := by
  rw [outcome_requireDefault, hdefault]
  simp

/-- A name is taken if another pack has it. The pack that is renamed may keep
    its own. -/
theorem outcome_requireFreeName {name : String} {except : Option Int}
    {success : Unit → Tables → Prop} :
    (Store.requireFreeName name except).Outcome tables failure success ↔
      ((∃ other, tables.packNamed? name = some other ∧ some other.id ≠ except) →
          failure (.refused (.nameTaken .pack name))) ∧
        ((∀ other, tables.packNamed? name = some other → some other.id = except) →
          success () tables) := by
  rw [Store.requireFreeName, outcome_bind, outcome_ask]
  cases tables.packNamed? name with
  | none => simp
  | some other => simp [and_comm]

end

/-- What a template may say: anything if it is an external one, and else what
    has no problem for the names that are known to it. -/
def AcceptsTemplate (registry : Registry) (declared : List String)
    (templateId content : String) : Prop :=
  ShippedTemplate.isExternalId templateId = true ∨
    validate registry (declared ++ ShippedTemplate.runtimeVariablesOf templateId) content = []

variable {tables : Tables} {failure : StoreFailure → Prop} {registry : Registry}
  {declared : List String}

/-- A template is accepted if the validation finds nothing, or if its identifier
    says that it is not rendered here at all. -/
theorem acceptsTemplate_iff {templateId content : String} :
    AcceptsTemplate registry declared templateId content ↔
      (ShippedTemplate.isExternalId templateId = false →
        validate registry (declared ++ ShippedTemplate.runtimeVariablesOf templateId) content =
          []) := by
  rw [AcceptsTemplate, Classical.or_iff_not_imp_left, Bool.not_eq_true]

/-- Behind this guard the template has been accepted. The failure tells all its
    problems, so any of them has to be allowed for. -/
theorem outcome_acceptTemplate {templateId content : String} {success : Unit → Tables → Prop}
    (hfailure : ∀ problems, failure (.invalidTemplate templateId problems))
    (hsuccess : AcceptsTemplate registry declared templateId content → success () tables) :
    (acceptTemplate registry declared templateId content).Outcome tables failure success := by
  unfold AcceptsTemplate at hsuccess
  rw [acceptTemplate, outcome_ite]
  refine ⟨fun hexternal => hsuccess (.inl hexternal), fun _ => ?_⟩
  simp only [outcome_ite, outcome_throw, outcome_pure]
  refine ⟨fun _ => hfailure _, fun hempty => hsuccess (.inr ?_)⟩
  simpa using hempty

/-- A template that would be accepted passes the guard. -/
theorem outcome_acceptTemplate_of_accepts {templateId content : String}
    (haccepts : AcceptsTemplate registry declared templateId content)
    {success : Unit → Tables → Prop} :
    (acceptTemplate registry declared templateId content).Outcome tables failure success ↔
      success () tables := by
  rw [acceptTemplate]
  by_cases hexternal : ShippedTemplate.isExternalId templateId = true
  · rw [if_pos hexternal]
    exact Iff.rfl
  · have hvalidate := haccepts.resolve_left hexternal
    simp [hexternal, hvalidate]

/-- A list of templates is accepted if each of them is. The failure tells the
    first template with problems. -/
theorem outcome_forM_acceptTemplate {α : Type} {templateId content : α → String} {items : List α}
    {success : PUnit → Tables → Prop}
    (hfailure : ∀ templateId problems, failure (.invalidTemplate templateId problems))
    (hsuccess : (∀ item ∈ items,
      AcceptsTemplate registry declared (templateId item) (content item)) → success () tables) :
    (items.forM fun item =>
      acceptTemplate registry declared (templateId item) (content item)).Outcome
      tables failure success := by
  induction items with
  | nil => exact hsuccess (by simp)
  | cons item items ih =>
    rw [outcome_forM_cons]
    refine outcome_acceptTemplate (hfailure _) fun hitem => ih fun hitems => hsuccess ?_
    exact List.forall_mem_cons.2 ⟨hitem, hitems⟩

/-- Templates that would be accepted one by one pass the guard together. -/
theorem outcome_forM_acceptTemplate_of_accepts {α : Type} {templateId content : α → String}
    {items : List α} (haccepts : ∀ item ∈ items,
      AcceptsTemplate registry declared (templateId item) (content item))
    {success : PUnit → Tables → Prop} :
    (items.forM fun item =>
      acceptTemplate registry declared (templateId item) (content item)).Outcome
      tables failure success ↔ success () tables := by
  induction items with
  | nil => exact Iff.rfl
  | cons item items ih =>
    obtain ⟨hitem, hitems⟩ := List.forall_mem_cons.1 haccepts
    rw [outcome_forM_cons, outcome_acceptTemplate_of_accepts hitem, ih hitems]

end Transaction

end PromptPacks
