import PromptPacks.Proofs.Template.Pointing
import PromptPacks.Proofs.Template.Readability
import PromptPacks.Proofs.Template.StmtCalls

namespace PromptPacks.Template

variable {registry : Registry} {additional : List String} {source name : String}
  {references : References}

/-- The names that a template calls. A template that cannot be read calls none. -/
def calledNames (source : String) : List String :=
  match read source with
  | .ok template => callsOfBody template
  | .error _ => []

/-- Whether a template is told that it calls a name and that functions are not
    supported. -/
def ReportsCall (registry : Registry) (additional : List String) (source name : String) : Prop :=
  ∃ place, .functionCall name place ∈ validate registry additional source

/-- Whether a template is told that it may not read a variable. -/
def ReportsUnknown (registry : Registry) (additional : List String) (source name : String) : Prop :=
  ∃ suggestion place, .unknownVariable name suggestion place ∈ validate registry additional source

/-- An unknown variable is told as a call or as an unknown variable, depending
    on nothing but whether the scanner finds it called. -/
theorem variableProblem_cases (source : String) (known : List String) (name : String) :
    ((callPlace? source.toList name).isSome = true ∧
        ∃ place, variableProblem source known name = .functionCall name place) ∨
      ((callPlace? source.toList name).isSome = false ∧
        ∃ suggestion place, variableProblem source known name =
          .unknownVariable name suggestion place) := by
  unfold variableProblem
  cases callPlace? source.toList name with
  | some offset => exact .inl ⟨rfl, _, rfl⟩
  | none => exact .inr ⟨rfl, _, _, rfl⟩

/-- The problems with variables are those of the unknown variables, one for
    each. -/
theorem mem_validate {problem : Problem} (hchecked : checkSyntax source = .ok references)
    (hkind : problem.kind = .variable) :
    problem ∈ validate registry additional source ↔
      ∃ name ∈ unknownVariables registry additional source,
        variableProblem source (registry.names ++ additional) name = problem := by
  rw [validate_of_checkSyntax hchecked, List.mem_append, List.mem_map, or_iff_left]
  intro hmem
  obtain ⟨name, -, rfl⟩ := List.mem_map.1 hmem
  cases hkind

/-- A call is reported for an unknown variable that the scanner finds called,
    whatever the known names are. -/
theorem reportsCall_iff (hchecked : checkSyntax source = .ok references) :
    ReportsCall registry additional source name ↔
      name ∈ unknownVariables registry additional source ∧
        (callPlace? source.toList name).isSome = true := by
  constructor
  · rintro ⟨place, hmem⟩
    obtain ⟨other, hunknown, hproblem⟩ := (mem_validate hchecked rfl).1 hmem
    obtain ⟨hcall, here, heq⟩ | ⟨-, suggestion, here, heq⟩ :=
      variableProblem_cases source (registry.names ++ additional) other
    · cases heq.symm.trans hproblem
      exact ⟨hunknown, hcall⟩
    · cases heq.symm.trans hproblem
  · rintro ⟨hunknown, hcall⟩
    obtain ⟨-, place, heq⟩ | ⟨hnone, -⟩ :=
      variableProblem_cases source (registry.names ++ additional) name
    · exact ⟨place, (mem_validate hchecked rfl).2 ⟨name, hunknown, heq⟩⟩
    · rw [hcall] at hnone
      cases hnone

/-- An unknown variable is reported as such where the scanner does not find it
    called. -/
theorem reportsUnknown_iff (hchecked : checkSyntax source = .ok references) :
    ReportsUnknown registry additional source name ↔
      name ∈ unknownVariables registry additional source ∧
        (callPlace? source.toList name).isSome = false := by
  constructor
  · rintro ⟨suggestion, place, hmem⟩
    obtain ⟨other, hunknown, hproblem⟩ := (mem_validate hchecked rfl).1 hmem
    obtain ⟨-, here, heq⟩ | ⟨hcall, other, here, heq⟩ :=
      variableProblem_cases source (registry.names ++ additional) other
    · cases heq.symm.trans hproblem
    · cases heq.symm.trans hproblem
      exact ⟨hunknown, hcall⟩
  · rintro ⟨hunknown, hcall⟩
    obtain ⟨hsome, -⟩ | ⟨-, suggestion, place, heq⟩ :=
      variableProblem_cases source (registry.names ++ additional) name
    · rw [hcall] at hsome
      cases hsome
    · exact ⟨suggestion, place, (mem_validate hchecked rfl).2 ⟨name, hunknown, heq⟩⟩

instance (registry : Registry) (additional : List String) (source name : String) :
    Decidable (ReportsCall registry additional source name) :=
  decidable_of_iff ((validate registry additional source).any fun
      | .functionCall found _ => found == name
      | _ => false)
    (by
      rw [List.any_eq_true]
      constructor
      · rintro ⟨problem, hmem, hcall⟩
        cases problem with
        | functionCall found place => exact ⟨place, eq_of_beq hcall ▸ hmem⟩
        | _ => cases hcall
      · rintro ⟨place, hmem⟩
        exact ⟨_, hmem, beq_self_eq_true name⟩)

/-- Calls are reported for unknown variables only, each of which is reported
    either as a call or as an unknown variable. In a legible template an
    unmistakable name is reported as a call exactly if it is an unknown variable
    that the template calls. A template is legible if its tags are as they
    should be, and also if each of its tags reads by itself as what the whole
    template reads there. Both conditions can be decided. -/
theorem reportsCall_iff_calls (registry : Registry) (additional : List String) {source : String}
    {references : References} (hchecked : checkSyntax source = .ok references) :
    (∀ name, ReportsCall registry additional source name →
      name ∈ references.variables ∧ ¬IsAllowed registry additional name) ∧
    (∀ name ∈ references.variables, ¬IsAllowed registry additional name →
      (ReportsUnknown registry additional source name ↔
        ¬ReportsCall registry additional source name)) ∧
    (IsLegible source.toList → ∀ name ∉ languageWords, IsUnmistakable name source.toList →
      (ReportsCall registry additional source name ↔
        name ∈ calledNames source ∧ name ∈ references.variables ∧
          ¬IsAllowed registry additional name)) ∧
    (IsWellTagged source.toList → IsLegible source.toList) ∧
    (ReadsByTags source.toList → IsLegible source.toList) := by
  have hunknown (name : String) : name ∈ unknownVariables registry additional source ↔
      name ∈ references.variables ∧ ¬IsAllowed registry additional name := by
    rw [references_of_checkSyntax hchecked, mem_unknownVariables]
  refine ⟨fun name hreports => ?_, fun name hmem hallowed => ?_,
    fun hlegible name hlanguage hunmistakable => ?_, IsWellTagged.isLegible,
    ReadsByTags.isLegible⟩
  · exact (hunknown name).1 ((reportsCall_iff hchecked).1 hreports).1
  · have hname := (hunknown name).2 ⟨hmem, hallowed⟩
    rw [reportsCall_iff hchecked, reportsUnknown_iff hchecked]
    simp [hname]
  · obtain ⟨hstatements, template, hread, -⟩ := checkSyntax_eq_ok.1 hchecked
    have hcalls : calledNames source = callsOfBody template := by rw [calledNames, hread]
    rw [reportsCall_iff hchecked, hunknown, and_comm, hcalls]
    refine and_congr_left fun hvariable => ?_
    rw [references_of_checkSyntax hchecked] at hvariable
    rw [hlegible.isSome_callPlace?_iff (leadingName_of_mem_variableNames hvariable.1) hlanguage
      hunmistakable]
    exact (mem_calls_of_parse hlanguage hread hunmistakable.clear
      (hlegible.areSupported hstatements)).symm

/-- A template that calls a function and shows another name before parentheses
    in a comment, in a raw block, as an attribute and in a string. -/
def callSample : String :=
  "\x7b# mood(0) #\x7d\x7b% raw %\x7dmood(1)\x7b% endraw %\x7d" ++
  "\x7b\x7b- a.mood(2) ~ 'mood(3)' ~ roll (mood | round(4)) -\x7d\x7d"

/-- Of the two names that stand before parentheses only the one that is called
    is reported as a call. -/
theorem reportsCall_iff_calls_sample :
    calledNames callSample = ["roll"] ∧ ReportsCall .empty [] callSample "roll" ∧
      ¬ReportsCall .empty [] callSample "mood" := by
  have hchecked : (checkSyntax callSample).toOption = some ⟨["a", "mood", "roll"], ["round"]⟩ := by
    decide +kernel
  have hcalls : calledNames callSample = ["roll"] := by decide +kernel
  have hreads : ReadsByTags callSample.toList := by decide +kernel
  have hroll : IsUnmistakable "roll" callSample.toList := by decide +kernel
  have hmood : IsUnmistakable "mood" callSample.toList := by decide +kernel
  obtain ⟨-, -, hiff, -, hlegible⟩ := reportsCall_iff_calls .empty [] (eq_ok_of_toOption hchecked)
  refine ⟨hcalls, (hiff (hlegible hreads) "roll" (by decide) hroll).2
    ⟨by simp [hcalls], by simp, by decide⟩, fun hreports => ?_⟩
  have hmem := ((hiff (hlegible hreads) "mood" (by decide) hmood).1 hreports).1
  simp [hcalls] at hmem

/-- A template that calls its only variable. -/
def knownCallSample : String :=
  "\x7b\x7b roll(1) \x7d\x7d"

/-- A template that calls the variable of a loop. -/
def loopCallSample : String :=
  "\x7b% for roll in [] %\x7d\x7b\x7b roll(1) \x7d\x7d\x7b% endfor %\x7d"

/-- A template with a variable and a filter of the same name. -/
def filterCallSample : String :=
  "\x7b\x7b 'a' | replace('a', replace) \x7d\x7d"

/-- A template with a variable and a method of the same name, which white space
    follows. -/
def methodCallSample : String :=
  "\x7b\x7b roll. roll(1) \x7d\x7d"

/-- Calls of names that the template may read or that a loop gives a value are
    not reported. Filters with arguments, and methods behind white space, are
    reported as calls. -/
theorem exists_reportsCall_ne_calls :
    (validate .empty ["roll"] knownCallSample = [] ∧ "roll" ∈ calledNames knownCallSample) ∧
      (validate .empty [] loopCallSample = [] ∧ "roll" ∈ calledNames loopCallSample) ∧
        (ReportsCall .empty [] filterCallSample "replace" ∧ calledNames filterCallSample = []) ∧
          ReportsCall .empty [] methodCallSample "roll" ∧ calledNames methodCallSample = [] := by
  decide +kernel

end PromptPacks.Template
