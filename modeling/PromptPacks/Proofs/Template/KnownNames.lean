import PromptPacks.Proofs.Template.Problems
import PromptPacks.Proofs.Text.Suggestion
import PromptPacks.Variable.System

namespace PromptPacks.Template

open PromptPacks.Text

variable {registry other : Registry} {additional others : List String} {source : String}

/-- The report on a name depends on the set of known names only, as the
    suggestion does. -/
theorem variableProblem_congr {known names : List String}
    (hsame : ∀ name, name ∈ known ↔ name ∈ names) (source name : String) :
    variableProblem source known name = variableProblem source names name := by
  unfold variableProblem
  rw [closest?_congr hsame]

/-- Which names are unknown depends on which are allowed, not on where they come
    from. -/
theorem unknownVariables_congr
    (hsame : ∀ name, IsAllowed registry additional name ↔ IsAllowed other others name) :
    unknownVariables registry additional source = unknownVariables other others source := by
  simp only [unknownVariables, hsame]

/-- The problems of a template depend on the set of allowed names only. -/
theorem validate_congr
    (hsame : ∀ name, IsAllowed registry additional name ↔ IsAllowed other others name) :
    validate registry additional source = validate other others source := by
  cases hchecked : checkSyntax source with
  | error diagnosis => rw [validate_of_error hchecked, validate_of_error hchecked]
  | ok references =>
    have hknown : ∀ name, name ∈ registry.names ++ additional ↔ name ∈ other.names ++ others := by
      simpa only [mem_known_iff] using hsame
    have hproblem := funext (variableProblem_congr hknown source)
    rw [validate_of_checkSyntax hchecked, validate_of_checkSyntax hchecked,
      unknownVariables_congr hsame, hproblem]

/-- A template without problems has none where more names are allowed. -/
theorem validate_eq_nil_mono
    (hallowed : ∀ name, IsAllowed registry additional name → IsAllowed other others name)
    (haccepted : validate registry additional source = []) :
    validate other others source = [] := by
  rw [validate_eq_nil_iff] at haccepted ⊢
  exact ⟨haccepted.1, fun name hname => hallowed name (haccepted.2 name hname)⟩

/-- All that counts for a template is which names it may read. Where these are
    the same, it has the same problems, whoever brings in the names, in which
    order and how often. A template without problems has none where it may read
    more. -/
theorem validate_eq_of_allowed (source : String) :
    (∀ registry other additional others,
      (∀ name, IsAllowed registry additional name ↔ IsAllowed other others name) →
        validate registry additional source = validate other others source) ∧
    ∀ registry other additional others,
      (∀ name, IsAllowed registry additional name → IsAllowed other others name) →
        validate registry additional source = [] → validate other others source = [] :=
  ⟨fun _ _ _ _ => validate_congr, fun _ _ _ _ => validate_eq_nil_mono⟩

/-- Two names are equally near to the one that this template misspells. -/
def tiedSample : String :=
  "\x7b\x7b mooa \x7d\x7d"

/-- The first of the two names in order is offered, though it is the last one
    given, and also if one of them is given twice. -/
theorem validate_eq_of_allowed_tiedSample :
    validate .empty ["moon", "mood"] tiedSample =
        [.unknownVariable "mooa" (some "mood") (some ⟨1, 4⟩)] ∧
      validate .empty ["mood", "moon", "mood"] tiedSample =
        [.unknownVariable "mooa" (some "mood") (some ⟨1, 4⟩)] ∧
      validate .empty ["mooa"] tiedSample = [] ∧
      validate .system ["mood", "mooa"] tiedSample = [] := by
  obtain ⟨hsame, hmore⟩ := validate_eq_of_allowed tiedSample
  have htold : validate .empty ["moon", "mood"] tiedSample =
      [.unknownVariable "mooa" (some "mood") (some ⟨1, 4⟩)] := by decide +kernel
  have haccepted : validate .empty ["mooa"] tiedSample = [] := by decide +kernel
  refine ⟨htold, ?_, haccepted, hmore .empty .system ["mooa"] ["mood", "mooa"] ?_ haccepted⟩
  · rw [← htold]
    refine hsame .empty .empty ["mood", "moon", "mood"] ["moon", "mood"] fun name => ?_
    simp only [IsAllowed, List.mem_cons, List.not_mem_nil, or_false]
    tauto
  · rintro name (hregistered | hmem)
    · cases hregistered
    · exact .inr (List.mem_cons_of_mem "mood" hmem)

end PromptPacks.Template
