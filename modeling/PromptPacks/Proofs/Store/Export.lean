import PromptPacks.Proofs.Store.Effects

namespace PromptPacks

open PromptPacks.Digest PromptPacks.Store PromptPacks.Text PromptPacks.Transaction

/-- A pack with its templates and its variables, in the form in which it is
    exchanged. -/
def Tables.exported (tables : Tables) (pack : Pack) : Envelope where
  version := formatVersion
  name := pack.name
  description := pack.description
  author := pack.author
  templates := (tables.templatesOf pack.id).map fun row =>
    ⟨row.templateId, row.content, some row.hash⟩
  «variables» := (tables.variablesOf pack.id).map fun row => ⟨row.definition, row.sortOrder⟩

/-- A pack that exists is exported, with its templates and its variables in the
    order of listings. -/
theorem Store.exportPack_eq_ok {tables : Tables} (hvalid : tables.Valid) {pack : Pack}
    (hpack : pack ∈ tables.packs) :
    exportPack pack.id tables = .ok (tables.exported pack, tables) := by
  refine Outcome.eq_ok ?_
  rw [exportPack_eq, outcome_bind, outcome_requirePack, hvalid.pack?_of_mem hpack]
  refine ⟨by simp, fun found hfound => ?_⟩
  obtain rfl := Option.some.inj hfound
  exact ⟨rfl, rfl⟩

/-- The variables of a pack that exists are listed, and reading them cannot
    fail. -/
theorem Store.variables_eq_ok {tables : Tables} (hvalid : tables.Valid) {pack : Pack}
    (hpack : pack ∈ tables.packs) :
    Store.variables pack.id tables = .ok (tables.variablesOf pack.id, tables) := by
  refine Outcome.eq_ok ?_
  rw [Store.variables, readVariables_eq_ask, outcome_bind, outcome_requirePack,
    hvalid.pack?_of_mem hpack]
  exact ⟨by simp, fun _ _ => ⟨rfl, rfl⟩⟩

/-- The rules for a definition do not look at its category, which is the same
    for all stored variables. -/
theorem PackVariable.check_ofDefinition {id packId place : Int} {definition : VariableDefinition} :
    (PackVariable.ofDefinition id packId definition place).definition.check = definition.check :=
  rfl

namespace Tables

variable {tables : Tables} {packId : Int}

/-- The listing of a pack has exactly its variables. -/
theorem mem_variablesOf {row : PackVariable} :
    row ∈ tables.variablesOf packId ↔ row ∈ tables.variables ∧ row.packId = packId := by
  simp [variablesOf, List.mem_mergeSort]

/-- The listing of templates is an arrangement of the rows of the pack. -/
theorem templatesOf_perm :
    (tables.templatesOf packId).Perm (tables.templates.filter (·.packId == packId)) :=
  List.mergeSort_perm _ _

/-- The listing of variables is an arrangement of the rows of the pack. -/
theorem variablesOf_perm :
    (tables.variablesOf packId).Perm (tables.variables.filter (·.packId == packId)) :=
  List.mergeSort_perm _ _

/-- Templates are listed by their identifiers. -/
theorem pairwise_templatesOf :
    (tables.templatesOf packId).Pairwise fun a b => a.templateId ≤ b.templateId := by
  refine (List.pairwise_mergeSort ?_ ?_ _).imp of_decide_eq_true
  · intro a b c hab hbc
    exact decide_eq_true (String.le_trans (of_decide_eq_true hab) (of_decide_eq_true hbc))
  · intro a b
    simpa only [Bool.or_eq_true, decide_eq_true_eq] using String.le_total _ _

/-- No identifier of a template is listed twice for one pack. -/
theorem Valid.nodup_templateIds (hvalid : tables.Valid) (packId : Int) :
    ((tables.templatesOf packId).map (·.templateId)).Nodup := by
  have hrows : (tables.templatesOf packId).Nodup :=
    templatesOf_perm.nodup_iff.2 ((List.Nodup.of_map _ hvalid.templateKeys).filter _)
  refine List.Nodup.map_on (fun a ha b hb heq => ?_) hrows
  obtain ⟨ha, hapack⟩ := mem_templatesOf.1 ha
  obtain ⟨hb, hbpack⟩ := mem_templatesOf.1 hb
  exact hvalid.template_eq_of_id ha hb (hapack.trans hbpack.symm) heq

end Tables

namespace Request

variable {α : Type} {registry : Registry} {tables after : Tables} {request : Request α}

/-- What holds of shipped templates and of accepted ones holds of all templates,
    if it does not depend on the pack. -/
theorem Effect.forall_templates {condition : PackTemplate → Prop}
    (heffect : request.Effect registry tables after)
    (hmoved : ∀ row packId, condition row → condition (row.moved packId))
    (hshipped : ∀ shipped ∈ ShippedTemplate.all, ∀ packId, condition (shipped.row packId))
    (haccepted : ∀ {declared packId templateId content}, isBlankText templateId = false →
      AcceptsTemplate registry declared templateId content →
        condition ⟨packId, templateId, content, contentHash content⟩)
    (hrows : ∀ row ∈ tables.templates, condition row) : ∀ row ∈ after.templates, condition row := by
  have hputAll : ∀ (start : Tables) {rows : List PackTemplate},
      (∀ row ∈ start.templates, condition row) → (∀ row ∈ rows, condition row) →
        ∀ row ∈ (start.putAll rows).templates, condition row := by
    intro start rows hstart hmore row hrow
    exact (Tables.mem_templates_putAll hrow).elim (hmore row) (hstart row)
  cases heffect with
  | unchanged | updatePack | createVariable | updateVariable | deleteVariable | assignPack
  | setStoryValues => exact hrows
  | seed | firstSeed =>
    intro row hrow
    obtain hrow | hrow := Tables.mem_templates_refreshAll hrow
    · obtain ⟨shipped, hmem, rfl⟩ := List.mem_map.1 hrow
      exact hshipped shipped hmem _
    · exact hrows row hrow
  | createPack =>
    refine hputAll (tables.addPack ..) hrows fun row hrow => ?_
    obtain ⟨old, hold, -, rfl⟩ := Tables.mem_templateCopies hrow
    exact hmoved old _ (hrows old hold)
  | deletePack => exact fun row hrow => hrows row (List.mem_filter.1 hrow).1
  | setTemplate _ _ hid haccepts =>
    intro row hrow
    obtain rfl | ⟨hrow, -⟩ := Tables.mem_templates_put.1 hrow
    · exact haccepted hid haccepts
    · exact hrows row hrow
  | resetTemplate _ _ _ hbaseline =>
    intro row hrow
    obtain rfl | ⟨hrow, -⟩ := Tables.mem_templates_put.1 hrow
    · exact hmoved _ _ (hrows _ (Tables.template?_eq_some hbaseline).1)
    · exact hrows row hrow
  | resetAll =>
    refine hputAll tables hrows fun row hrow => ?_
    obtain ⟨baseline, hbaseline, rfl⟩ := List.mem_map.1 hrow
    exact hmoved _ _ (hrows _ (Tables.mem_differing hbaseline).1)
  | importPack hcheck haccepts =>
    have hids := (Envelope.checkTemplates_eq_ok.1 (Envelope.check_eq_ok.1 hcheck).2.2.1).1
    refine hputAll _ (hputAll (tables.addPack ..) hrows fun row hrow => ?_)
      fun row hrow => ?_
    · obtain ⟨template, htemplate, rfl⟩ := List.mem_map.1 hrow
      exact haccepted (hids template htemplate) (haccepts template htemplate)
    · obtain ⟨old, hold, rfl⟩ := List.mem_map.1 hrow
      exact hmoved _ _ (hrows _ (Tables.mem_templatesOf.1 (List.mem_filter.1 hold).1).1)

/-- All variables keep to the rules for definitions. Rows that a request writes
    have been checked by it, and the others are not touched. -/
theorem Effect.check_definitions (heffect : request.Effect registry tables after)
    (hrows : ∀ row ∈ tables.variables, row.definition.check = .ok ()) :
    ∀ row ∈ after.variables, row.definition.check = .ok () := by
  have hadded : ∀ {start : Tables} {packId : Int} {items : List (VariableDefinition × Int)},
      (∀ row ∈ start.variables, row.definition.check = .ok ()) →
        (∀ item ∈ items, item.1.check = .ok ()) →
          ∀ row ∈ (start.addVariables packId items).variables, row.definition.check = .ok () := by
    intro start packId items hstart hitems row hrow
    obtain hrow | hrow := List.mem_append.1 hrow
    · exact hstart row hrow
    · obtain ⟨item, hitem, heq⟩ := PackVariable.mem_numbered hrow
      rw [heq, PackVariable.check_ofDefinition]
      exact hitems item hitem
  cases heffect with
  | unchanged | updatePack | setTemplate | resetTemplate | assignPack | setStoryValues =>
    exact hrows
  | seed | firstSeed | resetAll => simpa using hrows
  | createPack =>
    refine hadded (by simpa using hrows) fun item hitem => ?_
    obtain ⟨old, hold, rfl⟩ := List.mem_map.1 hitem
    exact hrows old (List.mem_filter.1 hold).1
  | deletePack | deleteVariable => exact fun row hrow => hrows row (List.mem_filter.1 hrow).1
  | createVariable _ _ _ haccepted => exact hadded hrows (by simpa using haccepted)
  | updateVariable _ _ _ _ haccepted =>
    intro row hrow
    obtain ⟨rfl, -⟩ | ⟨hrow, -⟩ := Tables.mem_variables_setVariable.1 hrow
    · exact haccepted
    · exact hrows row hrow
  | importPack hcheck =>
    have hvariables := (Envelope.checkVariables_eq_ok.1 (Envelope.check_eq_ok.1 hcheck).2.2.2).1
    refine hadded (by simpa using hrows) fun item hitem => ?_
    obtain ⟨exported, hexported, rfl⟩ := List.mem_map.1 hitem
    exact (hvariables exported hexported).2

end Request

namespace Reachable

variable {registry : Registry} {tables : Tables}

/-- No template of a store has a blank identifier. -/
theorem isBlankText_templateId (hreachable : Reachable registry tables) :
    ∀ row ∈ tables.templates, isBlankText row.templateId = false := by
  have hshipped : ∀ shipped ∈ ShippedTemplate.all, isBlankText shipped.id = false := by
    decide +kernel
  refine hreachable.keeps
    (fun tables => ∀ row ∈ tables.templates, isBlankText row.templateId = false)
    (by simp [Tables.empty]) (fun _ _ hkept heffect => ?_) fun row hkept => hkept
  exact heffect.forall_templates (fun row packId hrow => hrow)
    (fun shipped hmem packId => hshipped shipped hmem) (fun hid _ => hid) hkept

/-- Every stored variable passes the check for definitions. -/
theorem check_definition (hreachable : Reachable registry tables) :
    ∀ row ∈ tables.variables, row.definition.check = .ok () :=
  hreachable.keeps (fun tables => ∀ row ∈ tables.variables, row.definition.check = .ok ())
    (by simp [Tables.empty]) (fun _ _ hkept heffect => heffect.check_definitions hkept)
    fun row hkept => hkept

/-- What is exported passes all checks of its structure, except perhaps that of
    the name. A copied pack may have a name that has become too long. -/
theorem check_exported_iff (hreachable : Reachable registry tables) (pack : Pack) :
    (tables.exported pack).check = .ok () ↔ checkPackName pack.name = .ok () := by
  have htemplates : Envelope.checkTemplates [] (tables.exported pack).templates = .ok () := by
    refine Envelope.checkTemplates_eq_ok.2 ⟨fun template htemplate => ?_, ?_, by simp⟩
    · obtain ⟨row, hrow, rfl⟩ := List.mem_map.1 htemplate
      exact hreachable.isBlankText_templateId row (Tables.mem_templatesOf.1 hrow).1
    · rw [Tables.exported, List.map_map]
      exact hreachable.valid.nodup_templateIds pack.id
  have hvariables : Envelope.checkVariables [] (tables.exported pack).variables = .ok () := by
    refine Envelope.checkVariables_eq_ok.2 ⟨fun exported hexported => ?_, ?_, by simp⟩
    · obtain ⟨row, hrow, rfl⟩ := List.mem_map.1 hexported
      exact ⟨rfl, hreachable.check_definition row (Tables.mem_variablesOf.1 hrow).1⟩
    · have hnames := hreachable.valid.nodup_variableNames pack.id
      rw [Tables.exported, List.map_map]
      exact (Tables.variablesOf_perm.map _).nodup_iff.2 hnames
  rw [Envelope.check_eq_ok]
  constructor
  · rintro ⟨-, hname, -⟩
    exact hname
  · intro hname
    exact ⟨rfl, hname, htemplates, hvariables⟩

end Reachable

end PromptPacks
