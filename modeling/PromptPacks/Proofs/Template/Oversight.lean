import PromptPacks.Proofs.Template.Acceptance
import PromptPacks.Proofs.Template.Agreement
import PromptPacks.Proofs.Template.StmtFeatures

namespace PromptPacks.Template

/-- The features that the scanner finds in the text of a template. -/
def scannedFeatures (source : List Char) : List Feature :=
  (scannedStatements source).map (.statement ·.value) ++
    (scannedFilters source).map (.filter ·.value)

/-- The features that a template shows to its reader and not to the scanner. -/
def overlooked (source : List Char) : List Feature :=
  (shownIn (wordsFrom .text (respell source))).filter (· ∉ scannedFeatures source)

/-- Whether the strict check or the validation accepts a template. -/
def IsAccepted (source : String) : Prop :=
  (∃ references, check source = .ok references) ∨
    ∃ registry additional, validate registry additional source = []

theorem eq_ok_of_toOption {ε α : Type} {result : Except ε α} {answer : α}
    (hanswer : result.toOption = some answer) : result = .ok answer := by
  cases result with
  | error fault => cases hanswer
  | ok found => rw [Option.some.inj hanswer]

variable {source : String}

/-- An accepted template passes the check of its statements and that of its
    filters, no matter which of the two ways it has been accepted. -/
theorem IsAccepted.passes (haccepted : IsAccepted source) : Passes source.toList := by
  obtain hcheck | ⟨registry, additional, hvalidate⟩ := haccepted
  · exact exists_check_eq_ok.1 hcheck
  · exact passes_of_validate hvalidate

/-- Every feature that the scan finds in a template that passes is supported. -/
theorem Passes.isSupported {source : List Char} (hpasses : Passes source) {feature : Feature}
    (hscanned : feature ∈ scannedFeatures source) : feature.IsSupported := by
  obtain ⟨-, hstatements, hfilters⟩ := hpasses
  rw [scannedFeatures, List.mem_append, List.mem_map, List.mem_map] at hscanned
  obtain ⟨statement, hmem, rfl⟩ | ⟨filter, hmem, rfl⟩ := hscanned
  · exact hstatements statement hmem
  · exact hfilters filter hmem

/-- What is overlooked stands between the delimiters of a template, but not
    where the scan looks. -/
theorem mem_overlooked {source : List Char} {feature : Feature} :
    feature ∈ overlooked source ↔
      feature ∈ shownIn (wordsFrom .text (respell source)) ∧
        feature ∉ scannedFeatures source := by
  rw [overlooked, List.mem_filter, decide_eq_true_eq]

/-- A template whose tags the scanner and the reader see alike. It has no
    comments, no raw blocks, no escaped line ends and no second spelling of a
    word, nothing in a tag fakes its end, and every tag ends. -/
structure IsWellTagged (source : List Char) : Prop extends IsBare source where
  respell_eq : respell source = source
  closed : AreWellClosed (wordsFrom .text source)

/-- A template whose tags and filters the scanner and the reader see alike: its
    tags are as they should be, and no filter is named with points. -/
structure IsPlain (source : List Char) : Prop extends IsWellTagged source where
  dots : ∀ feature ∈ shownIn (wordsFrom .text source), feature.isDotted = false

instance : DecidablePred IsWellTagged := fun source =>
  decidable_of_iff (IsBare source ∧ respell source = source ∧
      AreWellClosed (wordsFrom .text source))
    ⟨fun ⟨hbare, hrespell, hclosed⟩ => ⟨hbare, hrespell, hclosed⟩,
      fun ⟨hbare, hrespell, hclosed⟩ => ⟨hbare, hrespell, hclosed⟩⟩

instance : DecidablePred IsPlain := fun source =>
  decidable_of_iff (IsWellTagged source ∧
      ∀ feature ∈ shownIn (wordsFrom .text source), feature.isDotted = false)
    ⟨fun ⟨htagged, hdots⟩ => ⟨htagged, hdots⟩, fun ⟨htagged, hdots⟩ => ⟨htagged, hdots⟩⟩

/-- In a template without comments and raw blocks, everything that the engine
    could use is found by the scan. -/
theorem mem_scannedFeatures {source : List Char} {feature : Feature} (hbare : IsBare source)
    (hfound : IsFound feature source) : feature ∈ scannedFeatures source := by
  obtain ⟨tag, htag, hfeature⟩ := hfound 0
  rw [← hbare.masked_eq_self] at htag
  obtain hkeyword | hfilter := List.mem_append.1 hfeature
  · rw [Option.mem_toList, Option.map_eq_some_iff] at hkeyword
    obtain ⟨statement, hstatement, rfl⟩ := hkeyword
    refine List.mem_append_left _ (List.mem_map_of_mem (List.mem_filterMap.2 ?_))
    exact ⟨tag, htag, hstatement⟩
  · obtain ⟨filter, hmem, rfl⟩ := List.mem_map.1 hfilter
    refine List.mem_append_right _ (List.mem_map_of_mem (List.mem_flatMap.2 ?_))
    exact ⟨tag, htag, hmem⟩

/-- In a plain template only the word for a further branch may stand for another
    one, the one for conditions. -/
theorem IsPlain.isSupported_of_mem_overlooked {source : List Char} {feature : Feature}
    (hplain : IsPlain source) (hmem : feature ∈ overlooked source) : feature.IsSupported := by
  obtain ⟨hshown, hscanned⟩ := mem_overlooked.1 hmem
  rw [hplain.respell_eq] at hshown
  obtain rfl | hfound := isFound_of_mem_shownIn hplain.toIsBare hplain.closed
    (hplain.dots feature hshown) hshown
  · decide
  · exact absurd (mem_scannedFeatures hplain.toIsBare hfound) hscanned

/-- An accepted template uses supported filters and statements only, exactly if
    this holds of those that the scanner overlooks. Plain templates always do
    so. Rendering a template reaches nothing that is not in it. -/
theorem IsAccepted.forall_isSupported_iff (haccepted : IsAccepted source) :
    ∃ template, read source = .ok template ∧
      ((∀ feature ∈ featuresOfBody template, feature.IsSupported) ↔
        ∀ feature ∈ overlooked source.toList, feature.IsSupported) ∧
      (IsPlain source.toList → ∀ feature ∈ featuresOfBody template, feature.IsSupported) := by
  have hpasses := haccepted.passes
  obtain ⟨references, hcheck⟩ := exists_check_eq_ok.2 hpasses
  obtain ⟨-, template, hread, -⟩ := checkSyntax_eq_ok.1 (check_eq_ok.1 hcheck).1
  have hshown : featuresOfBody template = shownIn (wordsFrom .text (respell source.toList)) :=
    features_of_parse hread
  have hiff : (∀ feature ∈ featuresOfBody template, feature.IsSupported) ↔
      ∀ feature ∈ overlooked source.toList, feature.IsSupported := by
    rw [hshown]
    constructor
    · intro hsupported feature hoverlooked
      exact hsupported feature (mem_overlooked.1 hoverlooked).1
    · intro hsupported feature hmem
      by_cases hscanned : feature ∈ scannedFeatures source.toList
      · exact hpasses.isSupported hscanned
      · exact hsupported feature (mem_overlooked.2 ⟨hmem, hscanned⟩)
  refine ⟨template, hread, hiff, fun hplain => hiff.2 fun feature hmem => ?_⟩
  exact hplain.isSupported_of_mem_overlooked hmem

/-- A template with a condition, a filter and a string that holds the end of an
    expression. -/
def plainSample : String :=
  "\x7b% if mood %\x7d\x7b\x7b mood | replace('\x7d\x7d', '') | upper \x7d\x7d\x7b% endif %\x7d"

theorem IsAccepted.forall_isSupported_sample :
    ∃ template, read plainSample = .ok template ∧
      ∀ feature ∈ featuresOfBody template, feature.IsSupported := by
  have hpasses : Passes plainSample.toList := by decide +kernel
  have hplain : IsPlain plainSample.toList := by decide +kernel
  have haccepted : IsAccepted plainSample := .inl (exists_check_eq_ok.2 hpasses)
  obtain ⟨template, hread, -, hsupported⟩ := IsAccepted.forall_isSupported_iff haccepted
  exact ⟨template, hread, hsupported hplain⟩

/-- A template with a string that looks like the start of a comment. The scanner
    takes everything from there up to the end of the next comment for a comment,
    the filter included. -/
def hiddenSample : String :=
  "\x7b\x7b \"\x7b#\" | shout \x7d\x7d\x7b# #\x7d"

/-- The unknown filter is accepted, and no rendering gets past it, here one
    without any values. The scan has taken the string for the start of a
    comment. -/
theorem check_hiddenSample :
    check hiddenSample = .ok ⟨[], []⟩ ∧
      ∃ template, read hiddenSample = .ok template ∧
        .filter "shout" ∈ featuresOfBody template ∧ ¬(Feature.filter "shout").IsSupported ∧
        output? template Dictionary.empty = none := by
  have hchecked : (check hiddenSample).toOption = some ⟨[], []⟩ := by decide +kernel
  have hrendered : (read hiddenSample).toOption.map
      (fun template => (featuresOfBody template, output? template Dictionary.empty)) =
        some ([.filter "shout"], none) := by
    decide +kernel
  obtain ⟨template, htemplate, hresult⟩ := Option.map_eq_some_iff.1 hrendered
  obtain ⟨hfeatures, houtput⟩ := Prod.mk.inj hresult
  refine ⟨eq_ok_of_toOption hchecked, template, eq_ok_of_toOption htemplate, ?_, by decide, houtput⟩
  rw [hfeatures]
  exact List.mem_singleton_self _

end PromptPacks.Template
