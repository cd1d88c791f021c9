import PromptPacks.Pack.Envelope
import PromptPacks.Proofs.Store.Rows

namespace PromptPacks.Envelope

open PromptPacks.Text

/-- Exported templates are accepted if their identifiers are not blank, distinct
    and not among those already accepted. -/
theorem checkTemplates_eq_ok {seen : List String} {templates : List ExportedTemplate} :
    checkTemplates seen templates = .ok () ↔
      (∀ template ∈ templates, isBlankText template.templateId = false) ∧
        (templates.map (·.templateId)).Nodup ∧
        ∀ template ∈ templates, template.templateId ∉ seen := by
  induction templates generalizing seen with
  | nil => simp [checkTemplates]
  | cons template rest ih =>
    rw [checkTemplates, List.forall_mem_cons, List.forall_mem_cons, List.map_cons,
      List.nodup_cons]
    by_cases hblank : isBlankText template.templateId = true
    · simp [hblank]
    · by_cases hseen : template.templateId ∈ seen
      · simp [hblank, hseen]
      · rw [if_neg hblank, if_neg (by simpa using hseen), ih, Rows.forall_notMem_cons]
        simp only [Bool.not_eq_true] at hblank
        simp only [hblank, hseen, not_false_eq_true, true_and, and_assoc, and_left_comm]

/-- Exported variables are accepted if they are custom, without fault, and have
    distinct names that are not among those already accepted. -/
theorem checkVariables_eq_ok {seen : List String} {exported : List ExportedVariable} :
    checkVariables seen exported = .ok () ↔
      (∀ item ∈ exported, item.definition.category = .custom ∧ item.definition.check = .ok ()) ∧
        (exported.map (·.definition.name)).Nodup ∧
        ∀ item ∈ exported, item.definition.name ∉ seen := by
  induction exported generalizing seen with
  | nil => simp [checkVariables]
  | cons item rest ih =>
    rw [checkVariables, List.forall_mem_cons, List.forall_mem_cons, List.map_cons,
      List.nodup_cons]
    by_cases hcategory : item.definition.category = .custom
    · cases hcheck : item.definition.check with
      | error refusal => simp [hcategory]
      | ok _ =>
        by_cases hseen : item.definition.name ∈ seen
        · simp [hcategory, hseen]
        · simp only [hcategory, ne_eq, not_true_eq_false, if_false]
          rw [if_neg (by simpa using hseen), ih, Rows.forall_notMem_cons]
          simp only [hseen, not_false_eq_true, true_and, and_assoc, and_left_comm]
    · simp [hcategory]

/-- An exported pack is accepted if each of its parts is. Neither the hashes of
    its templates nor its description and author are among what is looked at. -/
theorem check_eq_ok {envelope : Envelope} :
    envelope.check = .ok () ↔
      envelope.version = formatVersion ∧ checkPackName envelope.name = .ok () ∧
        checkTemplates [] envelope.templates = .ok () ∧
        checkVariables [] envelope.variables = .ok () := by
  unfold check
  by_cases hversion : envelope.version = formatVersion
  · cases hname : checkPackName envelope.name <;>
      cases htemplates : checkTemplates [] envelope.templates <;>
      simp [hversion, bind, Except.bind]
  · simp [hversion, bind, Except.bind]

/-- The variables of an accepted pack have distinct names, so they can be added
    to a pack without any. -/
theorem nodup_variableNames {envelope : Envelope} (hcheck : envelope.check = .ok ()) :
    (envelope.variables.map (·.definition.name)).Nodup :=
  (checkVariables_eq_ok.1 (check_eq_ok.1 hcheck).2.2.2).2.1

end PromptPacks.Envelope
