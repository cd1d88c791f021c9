import PromptPacks.Proofs.Template.Acceptance
import PromptPacks.Proofs.Text.Distance

namespace PromptPacks.Template

open PromptPacks.Text

/-- Whether a template may read a name: a registry or a list of additional names
    has it. -/
def IsAllowed (registry : Registry) (additional : List String) (name : String) : Prop :=
  registry.has name = true ∨ name ∈ additional

instance (registry : Registry) (additional : List String) (name : String) :
    Decidable (IsAllowed registry additional name) :=
  inferInstanceAs (Decidable (_ ∨ _))

/-- The names that suggestions are taken from are the allowed ones, those of the
    registry and the additional ones. -/
theorem mem_known_iff {registry : Registry} {additional : List String} {name : String} :
    name ∈ registry.names ++ additional ↔ IsAllowed registry additional name := by
  rw [List.mem_append, IsAllowed, Registry.has, Dictionary.contains_iff_mem_names]
  rfl

/-- Names are sorted and none of them stands twice in the result. -/
theorem sortedNames_pairwise (names : List String) : (sortedNames names).Pairwise (· < ·) :=
  List.pairwise_map.2 (Dictionary.ofList (names.map (·, ()))).ascending

variable {registry : Registry} {additional : List String} {source : String}

/-- The variables of a template that it may not read, in ascending order. -/
def unknownVariables (registry : Registry) (additional : List String) (source : String) :
    List String :=
  (variableNames source).filter (¬IsAllowed registry additional ·)

/-- The filters of a template that do not exist, in ascending order. -/
def unknownFilters (source : String) : List String :=
  (filterNames source).filter (· ∉ Filter.known)

/-- The variables of a template come in order, each of them once. -/
theorem variableNames_pairwise (source : String) : (variableNames source).Pairwise (· < ·) := by
  unfold variableNames
  split
  · exact sortedNames_pairwise _
  · exact .nil

/-- The unknown variables of a template come in order, too, as they are a
    selection of its variables. -/
theorem unknownVariables_pairwise :
    (unknownVariables registry additional source).Pairwise (· < ·) :=
  (variableNames_pairwise source).filter _

/-- The unknown filters of a template come in order, each of them once, however
    often they are used. -/
theorem unknownFilters_pairwise : (unknownFilters source).Pairwise (· < ·) :=
  (sortedNames_pairwise _).filter _

/-- The unknown variables of a template are those that are not allowed. -/
theorem mem_unknownVariables {name : String} :
    name ∈ unknownVariables registry additional source ↔
      name ∈ variableNames source ∧ ¬IsAllowed registry additional name := by
  simp [unknownVariables]

/-- The unknown filters of a template are those the scan finds and the engine is
    not given. -/
theorem mem_unknownFilters {name : String} :
    name ∈ unknownFilters source ↔
      (∃ filter ∈ scannedFilters source.toList, filter.value = name) ∧ name ∉ Filter.known := by
  simp [unknownFilters, filterNames, mem_sortedNames]

/-- What a template that can be read is told: its unknown variables, then its
    unknown filters. The references themselves do not matter, as the validation
    looks at the names alone. -/
theorem validate_of_checkSyntax {references : References}
    (hchecked : checkSyntax source = .ok references) :
    validate registry additional source =
      (unknownVariables registry additional source).map
          (variableProblem source (registry.names ++ additional)) ++
        (unknownFilters source).map (filterProblem source) := by
  have hvariables : ((variableNames source).filter fun name =>
      !registry.has name && !additional.contains name) =
        unknownVariables registry additional source := by
    refine List.filter_congr fun name _ => ?_
    simp [IsAllowed]
  have hfilters : ((filterNames source).filter (!Filter.known.contains ·)) =
      unknownFilters source := by
    refine List.filter_congr fun name _ => ?_
    simp
  rw [validate, hchecked, references_of_checkSyntax hchecked]
  simp only [hvariables, hfilters]

/-- A template that cannot be read is told that and nothing else. -/
theorem validate_of_error {diagnosis : Diagnosis}
    (hchecked : checkSyntax source = .error diagnosis) :
    validate registry additional source = [.malformed diagnosis.advice diagnosis.place] := by
  rw [validate, hchecked]

/-- Whether what a problem offers may stand in place of the name that it
    reports: an allowed variable or a known filter, and a name that is few edits
    away. -/
def Problem.OffersKnown (registry : Registry) (additional : List String) (problem : Problem) :
    Prop :=
  ∀ name suggestion, problem.name? = some name → problem.suggestion? = some suggestion →
    (match problem.kind with
      | .syntactic => False
      | .variable => IsAllowed registry additional suggestion
      | .filter => suggestion ∈ Filter.known) ∧
    suggestion ≠ name ∧ ∃ n ≤ maxSuggestionDistance, Edits n name.toList suggestion.toList

/-- A problem with a variable is of its kind and carries its name, whether the
    variable is called or not. Only a variable that is not called gets a
    suggestion. -/
theorem variableProblem_spec (registry : Registry) (additional : List String)
    (source name : String) :
    let problem := variableProblem source (registry.names ++ additional) name
    problem.kind = .variable ∧ problem.name? = some name ∧
      problem.OffersKnown registry additional := by
  simp only [variableProblem]
  split
  · refine ⟨rfl, rfl, ?_⟩
    rintro name suggestion - ⟨⟩
  · refine ⟨rfl, rfl, ?_⟩
    rintro _ suggestion ⟨⟩ hsuggestion
    obtain ⟨hmem, hnear⟩ := closest?_eq_some hsuggestion
    exact ⟨mem_known_iff.1 hmem, edits_of_isPlausible hnear⟩

/-- A problem with a filter is of its kind and carries its name. What it
    suggests is one of the filters that the engine is given. -/
theorem filterProblem_spec (source name : String) :
    (filterProblem source name).kind = .filter ∧ (filterProblem source name).name? = some name ∧
      (filterProblem source name).OffersKnown registry additional := by
  refine ⟨rfl, rfl, ?_⟩
  rintro _ suggestion ⟨⟩ hsuggestion
  obtain ⟨hmem, hnear⟩ := closest?_eq_some hsuggestion
  exact ⟨hmem, edits_of_isPlausible hnear⟩

/-- No problem suggests a name that would be reported in its turn. Where the
    template cannot be read, nothing is suggested. -/
theorem offersKnown_of_mem_validate {problem : Problem}
    (hmem : problem ∈ validate registry additional source) :
    problem.OffersKnown registry additional := by
  cases hchecked : checkSyntax source with
  | error diagnosis =>
    rw [validate_of_error hchecked, List.mem_singleton] at hmem
    subst hmem
    rintro name suggestion ⟨⟩
  | ok references =>
    rw [validate_of_checkSyntax hchecked, List.mem_append] at hmem
    obtain hmem | hmem := hmem
    · obtain ⟨name, -, rfl⟩ := List.mem_map.1 hmem
      exact (variableProblem_spec _ _ source name).2.2
    · obtain ⟨name, -, rfl⟩ := List.mem_map.1 hmem
      exact (filterProblem_spec source name).2.2

/-- A template has no problem exactly if the strict check accepts it and it may
    read all its variables. -/
theorem validate_eq_nil_iff_check :
    validate registry additional source = [] ↔ ∃ references, check source = .ok references ∧
      ∀ name ∈ references.variables, IsAllowed registry additional name := by
  rw [validate_eq_nil_iff, ← exists_check_eq_ok]
  constructor
  · rintro ⟨⟨references, hcheck⟩, hallowed⟩
    refine ⟨references, hcheck, ?_⟩
    rwa [references_of_checkSyntax (check_eq_ok.1 hcheck).1]
  · rintro ⟨references, hcheck, hallowed⟩
    rw [references_of_checkSyntax (check_eq_ok.1 hcheck).1] at hallowed
    exact ⟨⟨references, hcheck⟩, hallowed⟩

/-- What an author is told about a template. If it cannot be read, this is one
    advice at the place of the fault. Otherwise it is one problem for each
    unknown variable and one for each unknown filter, both in ascending order.
    Nothing is told exactly if the strict check accepts the template and all its
    variables are allowed, and every name that is offered can be used and is
    close to the one that is reported. -/
theorem validate_tells (registry : Registry) (additional : List String) (source : String) :
    (match checkSyntax source with
      | .error diagnosis => validate registry additional source =
          [.malformed (.forMessage diagnosis.objection.message) diagnosis.place]
      | .ok references => ∃ unknown strange : List String,
          unknown.Pairwise (· < ·) ∧
          (∀ name, name ∈ unknown ↔
            name ∈ references.variables ∧ ¬IsAllowed registry additional name) ∧
          strange.Pairwise (· < ·) ∧
          (∀ name, name ∈ strange ↔
            (∃ filter ∈ scannedFilters source.toList, filter.value = name) ∧
              name ∉ Filter.known) ∧
          (validate registry additional source).map (fun problem => (problem.kind, problem.name?)) =
            unknown.map (fun name => (.variable, some name)) ++
              strange.map fun name => (.filter, some name)) ∧
    (validate registry additional source = [] ↔ ∃ references, check source = .ok references ∧
      ∀ name ∈ references.variables, IsAllowed registry additional name) ∧
    ∀ problem ∈ validate registry additional source, problem.OffersKnown registry additional := by
  refine ⟨?_, validate_eq_nil_iff_check, fun problem => offersKnown_of_mem_validate⟩
  cases hchecked : checkSyntax source with
  | error diagnosis => exact validate_of_error hchecked
  | ok references =>
    refine ⟨unknownVariables registry additional source, unknownFilters source,
      unknownVariables_pairwise, fun name => ?_, unknownFilters_pairwise,
      fun name => mem_unknownFilters, ?_⟩
    · rw [references_of_checkSyntax hchecked]
      exact mem_unknownVariables
    · rw [validate_of_checkSyntax hchecked, List.map_append, List.map_map, List.map_map]
      congr 1
      refine List.map_congr_left fun name _ => ?_
      obtain ⟨hkind, hname, -⟩ := variableProblem_spec registry additional source name
      exact Prod.ext hkind hname

/-- A variable and a filter of this template are misspelled. -/
def misspelledSample : String :=
  "\x7b\x7b moud | uper \x7d\x7d"

/-- A misspelled name is reported at its place, with the name that was meant. -/
theorem validate_tells_sample :
    .unknownVariable "moud" (some "mood") (some ⟨1, 4⟩) ∈
        validate .empty ["mood"] misspelledSample ∧
      IsAllowed .empty ["mood"] "mood" ∧
      ∃ n ≤ maxSuggestionDistance, Edits n "moud".toList "mood".toList := by
  have hmem : .unknownVariable "moud" (some "mood") (some ⟨1, 4⟩) ∈
      validate .empty ["mood"] misspelledSample := by
    decide +kernel
  obtain ⟨hallowed, -, hedits⟩ :=
    (validate_tells .empty ["mood"] misspelledSample).2.2 _ hmem "moud" "mood" rfl rfl
  exact ⟨hmem, hallowed, hedits⟩

end PromptPacks.Template
