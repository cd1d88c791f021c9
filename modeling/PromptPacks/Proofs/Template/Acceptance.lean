import PromptPacks.Pack.Catalogue
import PromptPacks.Proofs.Dictionary
import PromptPacks.Template.Validation
import PromptPacks.Variable.System

namespace PromptPacks.Template

open PromptPacks.Text

/-- A text that is accepted as a template: it can be read, and the scanner finds
    supported statements and known filters only. -/
def Passes (source : List Char) : Prop :=
  (parse (respell source)).isOk = true ∧
    (∀ statement ∈ scannedStatements source, statement.value ∈ supportedStatements) ∧
    ∀ filter ∈ scannedFilters source, filter.value ∈ Filter.known

instance (source : List Char) : Decidable (Passes source) :=
  inferInstanceAs (Decidable (_ ∧ _ ∧ _))

variable {source : String} {references : References}

/-- What the syntax check asks for: supported statements as the scanner sees
    them, and a template that can be read. The references that it gives are
    sorted, which changes nothing about their set. -/
theorem checkSyntax_eq_ok :
    checkSyntax source = .ok references ↔
      (∀ statement ∈ scannedStatements source.toList, statement.value ∈ supportedStatements) ∧
        ∃ template, read source = .ok template ∧
          references = ⟨sortedNames (freeNames template), filterNames source⟩ := by
  unfold checkSyntax
  cases read source with
  | error fault => simp
  | ok template =>
    cases hfind : (scannedStatements source.toList).find?
        (!supportedStatements.contains ·.value) with
    | some found =>
      have hfound := List.find?_some hfind
      have hmem := List.mem_of_find?_eq_some hfind
      simp only [reduceCtorEq, false_iff]
      rintro ⟨hsupported, -⟩
      simp [hsupported found hmem] at hfound
    | none =>
      rw [List.find?_eq_none] at hfind
      simp only [Except.ok.injEq, exists_eq_left']
      constructor
      · rintro rfl
        exact ⟨by simpa using hfind, rfl⟩
      · rintro ⟨-, rfl⟩
        rfl

/-- The strict check also asks that all filters which the scanner sees are
    known. -/
theorem check_eq_ok :
    check source = .ok references ↔
      checkSyntax source = .ok references ∧
        ∀ filter ∈ scannedFilters source.toList, filter.value ∈ Filter.known := by
  unfold check
  cases checkSyntax source with
  | error diagnosis => simp
  | ok other =>
    cases hfind : (scannedFilters source.toList).find? (!Filter.known.contains ·.value) with
    | some found =>
      have hfound := List.find?_some hfind
      have hmem := List.mem_of_find?_eq_some hfind
      simp only [reduceCtorEq, false_iff]
      rintro ⟨-, hknown⟩
      simp [hknown found hmem] at hfound
    | none =>
      rw [List.find?_eq_none] at hfind
      simp only [Except.ok.injEq]
      exact ⟨fun heq => ⟨heq, by simpa using hfind⟩, And.left⟩

/-- The strict check accepts a template if its text passes. The references play
    no part in this. -/
theorem exists_check_eq_ok :
    (∃ references, check source = .ok references) ↔ Passes source.toList := by
  have hread : (∃ template, read source = .ok template) ↔
      (parse (respell source.toList)).isOk = true := by
    rw [read]
    cases parse (respell source.toList) <;> simp [Except.isOk, Except.toBool]
  simp only [check_eq_ok, checkSyntax_eq_ok, Passes, ← hread]
  constructor
  · rintro ⟨references, ⟨hstatements, template, htemplate, -⟩, hfilters⟩
    exact ⟨⟨template, htemplate⟩, hstatements, hfilters⟩
  · rintro ⟨⟨template, htemplate⟩, hstatements, hfilters⟩
    exact ⟨_, ⟨hstatements, template, htemplate, rfl⟩, hfilters⟩

/-- A template without a problem passes the strict check, whatever names it may
    use. -/
theorem passes_of_validate {registry : Registry} {additional : List String}
    (hvalidate : validate registry additional source = []) : Passes source.toList := by
  unfold validate at hvalidate
  rw [← exists_check_eq_ok]
  cases hchecked : checkSyntax source with
  | error diagnosis => simp [hchecked] at hvalidate
  | ok references =>
    simp only [hchecked, List.append_eq_nil_iff, List.map_eq_nil_iff, List.filter_eq_nil_iff]
      at hvalidate
    refine ⟨references, check_eq_ok.2 ⟨hchecked, fun filter hfilter => ?_⟩⟩
    obtain ⟨-, template, -, rfl⟩ := checkSyntax_eq_ok.1 hchecked
    have hmem : filter.value ∈ filterNames source :=
      mem_sortedNames.2 (List.mem_map_of_mem hfilter)
    simpa using hvalidate.2 filter.value hmem

/-- The references of an accepted template are its free names and the filters
    that the scanner sees. -/
theorem references_of_checkSyntax (hchecked : checkSyntax source = .ok references) :
    references = ⟨variableNames source, filterNames source⟩ := by
  obtain ⟨-, template, htemplate, rfl⟩ := checkSyntax_eq_ok.1 hchecked
  rw [variableNames, htemplate]

/-- A template has no problem if its text passes and all its names are known.
    The two conditions do not depend on each other, so a template that passes
    once passes with other names as well. -/
theorem validate_eq_nil_iff {registry : Registry} {additional : List String} :
    validate registry additional source = [] ↔ Passes source.toList ∧
      ∀ name ∈ variableNames source, registry.has name = true ∨ name ∈ additional := by
  constructor
  · intro hvalidate
    refine ⟨passes_of_validate hvalidate, fun name hname => ?_⟩
    unfold validate at hvalidate
    cases hchecked : checkSyntax source with
    | error diagnosis => simp [hchecked] at hvalidate
    | ok references =>
      obtain rfl := references_of_checkSyntax hchecked
      simp only [hchecked, List.append_eq_nil_iff, List.map_eq_nil_iff, List.filter_eq_nil_iff]
        at hvalidate
      have hknown := hvalidate.1 name hname
      simp only [Bool.and_eq_true, Bool.not_eq_true', not_and, Bool.not_eq_false,
        List.contains_iff_mem] at hknown
      cases hhas : registry.has name with
      | true => exact .inl rfl
      | false => exact .inr (hknown hhas)
  · rintro ⟨hpasses, hknown⟩
    obtain ⟨references, hcheck⟩ := exists_check_eq_ok.2 hpasses
    obtain ⟨hchecked, hfilters⟩ := check_eq_ok.1 hcheck
    obtain rfl := references_of_checkSyntax hchecked
    have hvariables : ∀ name ∈ variableNames source,
        ¬(!registry.has name && !additional.contains name) = true := by
      intro name hname
      obtain hhas | hmem := hknown name hname
      · simp [hhas]
      · simp [hmem]
    have hnames : ∀ name ∈ filterNames source, ¬(!Filter.known.contains name) = true := by
      intro name hname
      obtain ⟨filter, hfilter, rfl⟩ := List.mem_map.1 (mem_sortedNames.1 hname)
      simpa using hfilters filter hfilter
    unfold validate
    simp only [hchecked, List.append_eq_nil_iff, List.map_eq_nil_iff, List.filter_eq_nil_iff]
    exact ⟨hvariables, hnames⟩

end PromptPacks.Template

namespace PromptPacks.ShippedTemplate

open PromptPacks.Template

/-- All shipped templates pass, except those that are never rendered. Each of
    them is checked by evaluation. -/
theorem passes_content {shipped : ShippedTemplate} (hshipped : shipped ∈ all)
    (hrendered : isExternalId shipped.id = false) : Passes shipped.content.toList := by
  have hall : ∀ shipped ∈ all, isExternalId shipped.id = true ∨ Passes shipped.content.toList := by
    simp only [all, List.forall_mem_cons, storySystemPrompt, storyTurn, memorySummary,
      loreExtraction, suggestionPrompt, imagePrompt, agentToolInstructions, String.toList_append]
    repeat rw [String.toList_ofList]
    decide +kernel
  exact (hall shipped hshipped).resolve_left (by simp [hrendered])

/-- Whether a text reads no names but the given ones. A text that cannot be read
    has none. -/
def readsOnly (names : List String) (source : List Char) : Bool :=
  match parse (respell source) with
  | .ok template => (freeNames template).all names.contains
  | .error _ => true

/-- What a shipped template reads is given for its rendering or known
    everywhere, so no pack has to declare it. -/
theorem mem_of_mem_variableNames {shipped : ShippedTemplate} (hshipped : shipped ∈ all)
    (hrendered : isExternalId shipped.id = false) {name : String}
    (hname : name ∈ variableNames shipped.content) :
    name ∈ systemVariables.map (·.name) ∨ name ∈ runtimeVariablesOf shipped.id := by
  have hall : ∀ shipped ∈ all, isExternalId shipped.id = true ∨
      readsOnly (systemVariables.map (·.name) ++ runtimeVariablesOf shipped.id)
        shipped.content.toList = true := by
    simp only [all, List.forall_mem_cons, storySystemPrompt, storyTurn, memorySummary,
      loreExtraction, suggestionPrompt, imagePrompt, agentToolInstructions, String.toList_append]
    repeat rw [String.toList_ofList]
    decide +kernel
  have hreads := (hall shipped hshipped).resolve_left (by simp [hrendered])
  unfold readsOnly at hreads
  unfold variableNames Template.read at hname
  cases hparse : parse (respell shipped.content.toList) with
  | error fault => simp [hparse] at hname
  | ok template =>
    rw [hparse] at hname hreads
    have hmem := List.all_eq_true.1 hreads name (mem_sortedNames.1 hname)
    rwa [List.contains_iff_mem, List.mem_append] at hmem

end PromptPacks.ShippedTemplate
