import PromptPacks.Proofs.Template.NameSearch
import PromptPacks.Proofs.Template.Problems
import PromptPacks.Proofs.Template.ScanOrder
import PromptPacks.Proofs.Template.Stepping
import PromptPacks.Proofs.Template.StmtNames

namespace PromptPacks.Template

open PromptPacks.Text

/-- Whether a word has the form of a name. -/
def IsName (word : String) : Prop :=
  word ≠ "" ∧ ∀ c ∈ word.toList, isNameChar c = true

/-- What is read as a name at the start of some text is a name. -/
theorem isName_of_leadingName {word cs : List Char} (hword : leadingName cs = some word) :
    IsName (String.ofList word) := by
  refine ⟨?_, ?_⟩
  · obtain ⟨c, rest, -, -, rfl⟩ := exists_of_leadingName hword
    simp
  · rw [String.toList_ofList]
    exact isNameChar_of_leadingName hword

/-- A name has at least one character. -/
theorem IsName.toList_ne_nil {word : String} (hname : IsName word) : word.toList ≠ [] := by
  simpa using hname.1

/-- Blanks do not occur in names. In particular a name has no feed in it, so it
    stands on one line. -/
theorem IsName.not_mem {word : String} (hname : IsName word) {c : Char}
    (hblank : isBlank c = true) : c ∉ word.toList := by
  intro hmem
  rw [isBlank_eq_false (hname.2 c hmem)] at hblank
  cases hblank

/-- The names among the tokens are read in one piece, so nothing comes before or
    behind them in what the tokens carry. -/
theorem haveNames_tokensFrom (mode : Mode) (offset : Nat) (cs : List Char) :
    HaveNames (fun word => leadingName word.toList = some word.toList)
      ((tokensFrom mode offset cs).tokens.map (·.value)) := by
  fun_induction tokensFrom mode offset cs with
  | case1 => exact fun _ hmem => absurd hmem List.not_mem_nil
  | case2 => exact fun _ hmem => absurd hmem List.not_mem_nil
  | case3 mode offset c rest extra next after hstep ih => exact ih
  | case4 mode offset c rest extra next after start token hstep ih =>
    intro word hmem
    obtain htoken | hmem := List.mem_cons.1 hmem
    · subst htoken
      exact leadingName_of_step hstep
    · exact ih word hmem

/-- A variable of a template is a name and nothing more, as it has been read
    from one token of the template. -/
theorem leadingName_of_mem_variableNames {source name : String}
    (hmem : name ∈ variableNames source) : leadingName name.toList = some name.toList := by
  unfold variableNames at hmem
  split at hmem
  · next template hread =>
    exact forall_freeNames hread (haveNames_tokensFrom .text 0 _) name (mem_sortedNames.1 hmem)
  · cases hmem

/-- A variable of a template is a name, the premise of every search for its
    place. -/
theorem isName_of_mem_variableNames {source name : String} (hmem : name ∈ variableNames source) :
    IsName name := by
  rw [← String.ofList_toList (s := name)]
  exact isName_of_leadingName (leadingName_of_mem_variableNames hmem)

/-- Whether a word stands in a text behind a number of bytes. -/
def StandsAt (cs word : List Char) (n : Nat) : Prop :=
  ∃ before behind, cs = before ++ (word ++ behind) ∧ byteSize before = n

/-- What stands whole in a text stands in it. Diagnostics do not promise more. -/
theorem StandsWhole.standsAt {isPart : Char → Bool} {cs word : List Char} {n : Nat}
    (hwhole : StandsWhole isPart cs word n) : StandsAt cs word n := by
  obtain ⟨before, behind, hcs, hsize, -, -⟩ := hwhole
  exact ⟨before, behind, hcs, hsize⟩

/-- A name behind a number of bytes is spelled out at the line and column of
    that offset. That it has no feed in it is needed, as the characters of a
    line are counted. -/
theorem StandsAt.spellsAt {source : List Char} {word : String} (hname : IsName word) {offset : Nat}
    (hstands : StandsAt source word.toList offset) :
    SpellsAt source word.toList (placeAt source offset) := by
  obtain ⟨before, behind, rfl, rfl⟩ := hstands
  exact spellsAt_placeAt (hname.not_mem (by decide)) before behind

/-- What a scan finds is a name, as it has been read from the start of a text. -/
theorem FoundBehind.isName {offset : Nat} {before rest : List Char} {found : Located String}
    (hfound : FoundBehind offset before rest found) : IsName found.value := by
  rw [← String.ofList_toList (s := found.value)]
  exact isName_of_leadingName hfound.leads

section Template

variable {source : List Char} {found : Located String}

/-- What is found in a tag stands in the template, and is no part of a longer
    name there. The tag has been cut out of a masked text, but a name has no
    spaces, so nothing of it is masked. -/
theorem Tag.standsWhole_of_mem_names {tag : Tag} (htag : tag ∈ tagsOf source)
    (hmem : found ∈ tag.names) :
    IsName found.value ∧ StandsWhole isNameChar source found.value.toList found.offset := by
  obtain ⟨before, rest, hbody, hfound⟩ := tag.exists_of_mem_names hmem
  have hname := hfound.isName
  have hwhole := hfound.standsWhole
  rw [← hbody] at hwhole
  refine ⟨hname, ?_⟩
  rw [hfound.offset_eq]
  exact hwhole.of_tag htag hname.toList_ne_nil (hname.not_mem (by decide))
    fun _ => isWordChar_of_isNameChar

/-- What is found in a tag is spelled out at the place of its offset. -/
theorem spellsAt_of_mem_names {tag : Tag} (htag : tag ∈ tagsOf source) (hmem : found ∈ tag.names) :
    SpellsAt source found.value.toList (placeAt source found.offset) := by
  obtain ⟨hname, hwhole⟩ := Tag.standsWhole_of_mem_names htag hmem
  exact hwhole.standsAt.spellsAt hname

/-- A filter that is found is spelled out at its place. -/
theorem spellsAt_of_mem_scannedFilters (hmem : found ∈ scannedFilters source) :
    SpellsAt source found.value.toList (placeAt source found.offset) := by
  obtain ⟨tag, htag, hfound⟩ := List.mem_flatMap.1 hmem
  exact spellsAt_of_mem_names htag (List.mem_append_right _ hfound)

/-- A statement that is found is spelled out at its place. -/
theorem spellsAt_of_mem_scannedStatements (hmem : found ∈ scannedStatements source) :
    SpellsAt source found.value.toList (placeAt source found.offset) := by
  obtain ⟨tag, htag, hfound⟩ := List.mem_filterMap.1 hmem
  exact spellsAt_of_mem_names htag (List.mem_append_left _ (Option.mem_toList.2 hfound))

/-- A variable whose place is found is spelled out there. It may be found at a
    place where the engine sees something else, say a property of that name. -/
theorem spellsAt_of_referenceOffset? {name : String} (hname : IsName name) {offset : Nat}
    (hoffset : referenceOffset? source name = some offset) :
    SpellsAt source name.toList (placeAt source offset) :=
  (standsWhole_of_referenceOffset? hname.toList_ne_nil (hname.not_mem (by decide))
    hoffset).standsAt.spellsAt hname

/-- A call whose place is found has its name spelled out there. -/
theorem spellsAt_of_callPlace? {name : String} (hname : IsName name) {offset : Nat}
    (hoffset : callPlace? source name = some offset) :
    SpellsAt source name.toList (placeAt source offset) :=
  (standsWhole_of_callPlace? hname.toList_ne_nil (hname.not_mem (by decide))
    hoffset).standsAt.spellsAt hname

end Template

variable {source : String}

/-- The name that an objection is about. -/
def Objection.name? : Objection → Option String
  | .malformed _ => none
  | .unsupportedStatement name | .unknownFilter name => some name

/-- An error about a name that is found without looking at variables points at
    that name. -/
theorem spellsAt_of_checkSyntax {diagnosis : Diagnosis}
    (hcheck : checkSyntax source = .error diagnosis) {name : String}
    (hname : diagnosis.objection.name? = some name) :
    SpellsAt source.toList name.toList diagnosis.place := by
  unfold checkSyntax at hcheck
  split at hcheck
  · cases hcheck
    cases hname
  · split at hcheck
    · next found hfound =>
      cases hcheck
      cases hname
      exact spellsAt_of_mem_scannedStatements (List.mem_of_find?_eq_some hfound)
    · cases hcheck

/-- An error about a name that the full check finds points at that name. The
    check of the statements comes first, so its errors are among these. -/
theorem spellsAt_of_check {diagnosis : Diagnosis} (hcheck : check source = .error diagnosis)
    {name : String} (hname : diagnosis.objection.name? = some name) :
    SpellsAt source.toList name.toList diagnosis.place := by
  unfold check at hcheck
  split at hcheck
  · next hsyntax =>
    cases hcheck
    exact spellsAt_of_checkSyntax hsyntax hname
  · split at hcheck
    · next found hfound =>
      cases hcheck
      cases hname
      exact spellsAt_of_mem_scannedFilters (List.mem_of_find?_eq_some hfound)
    · cases hcheck

/-- Whether a problem is placed where the name that it reports is spelled, if it
    is placed. -/
def Problem.PointsAtName (source : String) (problem : Problem) : Prop :=
  ∀ name place, problem.name? = some name → problem.place? = some place →
    SpellsAt source.toList name.toList place

/-- An unknown variable points at its name, or at no place if the search does
    not find it. -/
theorem pointsAtName_variableProblem {known : List String} {name : String} (hname : IsName name) :
    (variableProblem source known name).PointsAtName source := by
  unfold variableProblem
  split
  · next offset hoffset =>
    rintro _ _ ⟨⟩ ⟨⟩
    exact spellsAt_of_callPlace? hname hoffset
  · rintro _ place ⟨⟩ hplace
    obtain ⟨offset, hoffset, rfl⟩ := Option.map_eq_some_iff.1 hplace
    exact spellsAt_of_referenceOffset? hname hoffset

/-- An unknown filter points at its name. For filters no premise is needed, as
    their names come from the scan itself. -/
theorem pointsAtName_filterProblem (name : String) :
    (filterProblem source name).PointsAtName source := by
  rintro _ place ⟨⟩ hplace
  obtain ⟨found, hfound, rfl⟩ := Option.map_eq_some_iff.1 hplace
  have hvalue : found.value = name := by simpa using List.find?_some hfound
  exact hvalue ▸ spellsAt_of_mem_scannedFilters (List.mem_of_find?_eq_some hfound)

/-- An unknown filter has a place, because it was found somewhere. -/
theorem isSome_place?_filterProblem {name : String} (hmem : name ∈ unknownFilters source) :
    (filterProblem source name).place?.isSome = true := by
  obtain ⟨⟨filter, hfilter, hvalue⟩, -⟩ := mem_unknownFilters.1 hmem
  have hfound : ((scannedFilters source.toList).find? (·.value == name)).isSome = true :=
    List.find?_isSome.2 ⟨filter, hfilter, by simpa using hvalue⟩
  rwa [filterProblem, Problem.place?, Option.isSome_map]

/-- Every place that is shown with a name is a place where the template spells
    this name: that of a diagnosis of an unsupported statement or an unknown
    filter, which is what an author is told where the template cannot be read,
    and that of a problem with a variable, a call or a filter. No unknown filter
    is reported without a place. -/
theorem spellsAt_reported (registry : Registry) (additional : List String) (source : String) :
    (∀ diagnosis name, check source = .error diagnosis → diagnosis.objection.name? = some name →
      SpellsAt source.toList name.toList diagnosis.place) ∧
    (∀ diagnosis, checkSyntax source = .error diagnosis →
      validate registry additional source =
        [.malformed (.forMessage diagnosis.objection.message) diagnosis.place] ∧
      ∀ name, diagnosis.objection.name? = some name →
        SpellsAt source.toList name.toList diagnosis.place) ∧
    ∀ problem ∈ validate registry additional source,
      problem.PointsAtName source ∧ (problem.kind = .filter → problem.place?.isSome = true) := by
  refine ⟨fun _ _ hcheck => spellsAt_of_check hcheck, fun diagnosis hcheck => ?_,
    fun problem hmem => ?_⟩
  · exact ⟨validate_of_error hcheck, fun name => spellsAt_of_checkSyntax hcheck⟩
  cases hcheck : checkSyntax source with
  | error diagnosis =>
    rw [validate_of_error hcheck, List.mem_singleton] at hmem
    subst hmem
    exact ⟨nofun, nofun⟩
  | ok references =>
    rw [validate_of_checkSyntax hcheck, List.mem_append] at hmem
    obtain hmem | hmem := hmem
    · obtain ⟨name, hunknown, rfl⟩ := List.mem_map.1 hmem
      have hname := isName_of_mem_variableNames (mem_unknownVariables.1 hunknown).1
      refine ⟨pointsAtName_variableProblem hname, fun hkind => ?_⟩
      rw [(variableProblem_spec registry additional source name).1] at hkind
      cases hkind
    · obtain ⟨name, hunknown, rfl⟩ := List.mem_map.1 hmem
      exact ⟨pointsAtName_filterProblem name, fun _ => isSome_place?_filterProblem hunknown⟩

/-- A variable and a filter of this template are unknown. They follow a comment,
    a quoted text, a character of several bytes and a line feed. -/
def distantSample : String :=
  "\x7b# × #\x7d\n\x7b\x7b '×' ~ mood | shout \x7d\x7d"

theorem spellsAt_reported_sample :
    check distantSample = .error ⟨.unknownFilter "shout", ⟨2, 17⟩⟩ ∧
      SpellsAt distantSample.toList "shout".toList ⟨2, 17⟩ ∧
      .unknownVariable "mood" none (some ⟨2, 10⟩) ∈ validate .empty [] distantSample ∧
      SpellsAt distantSample.toList "mood".toList ⟨2, 10⟩ := by
  have hcheck : check distantSample = .error ⟨.unknownFilter "shout", ⟨2, 17⟩⟩ := by
    decide +kernel
  have hmem : .unknownVariable "mood" none (some ⟨2, 10⟩) ∈
      validate .empty [] distantSample := by
    decide +kernel
  obtain ⟨hdiagnosis, -, hproblems⟩ := spellsAt_reported .empty [] distantSample
  exact ⟨hcheck, hdiagnosis _ "shout" hcheck rfl, hmem, (hproblems _ hmem).1 "mood" _ rfl rfl⟩

end PromptPacks.Template
