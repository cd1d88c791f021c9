import PromptPacks.Proofs.Digest.Content
import PromptPacks.Proofs.Digest.Tidying

namespace PromptPacks.Digest

open PromptPacks.Text

variable {cs text lineEnd before after : List Char} {ls : List (List Char)} {c : Char}

/-- The lines of a text are what a split at line feeds gives, so the lemmas
    about splits can be used. -/
theorem lines_eq_splitOn (cs : List Char) : lines cs = cs.splitOn '\n' := by
  induction cs with
  | nil => rfl
  | cons c cs ih =>
    obtain ⟨line, more, hsplit⟩ := List.exists_cons_of_ne_nil (List.splitOn_ne_nil '\n' cs)
    rw [lines, ih, List.splitOn_cons_eq_if_modifyHead, hsplit]
    rfl

/-- A line has no line feed, and only characters of the text. These are the
    two facts that keep the lines of a normal form apart when they are joined
    again. -/
theorem mem_of_mem_splitOn {line : List Char} (hline : line ∈ cs.splitOn '\n') :
    '\n' ∉ line ∧ line ⊆ cs := by
  induction cs generalizing line with
  | nil =>
    obtain rfl : line = [] := by simpa using hline
    exact ⟨List.not_mem_nil, List.Subset.refl _⟩
  | cons d cs ih =>
    have hcons {line : List Char} (hsub : line ⊆ cs) : line ⊆ d :: cs :=
      List.Subset.trans hsub (List.subset_cons_self d cs)
    obtain ⟨first, more, hsplit⟩ := List.exists_cons_of_ne_nil (List.splitOn_ne_nil '\n' cs)
    rw [List.splitOn_cons_eq_if_modifyHead] at hline
    split at hline
    · obtain rfl | hline := List.mem_cons.1 hline
      · exact ⟨List.not_mem_nil, List.nil_subset _⟩
      · exact (ih hline).imp_right hcons
    next hother =>
      rw [hsplit] at hline ih
      obtain rfl | hline := List.mem_cons.1 hline
      · obtain ⟨hfeed, hsub⟩ := ih List.mem_cons_self
        refine ⟨?_, List.cons_subset_cons d hsub⟩
        rw [List.mem_cons, not_or]
        exact ⟨fun heq => hother (beq_iff_eq.2 heq.symm), hfeed⟩
      · exact (ih (List.mem_cons_of_mem _ hline)).imp_right hcons

/-- A character at the end of a text, if it is no line feed, is at the end of
    its last line. -/
theorem splitOn_concat (cs : List Char) (c : Char) :
    ∃ (init : List (List Char)) (last : List Char), cs.splitOn '\n' = init ++ [last] ∧
      (c ≠ '\n' → (cs ++ [c]).splitOn '\n' = init ++ [last ++ [c]]) := by
  induction cs with
  | nil =>
    refine ⟨[], [], rfl, fun hother => ?_⟩
    exact List.splitOn_eq_singleton (by simpa using hother.symm)
  | cons d cs ih =>
    obtain ⟨init, last, hsplit, hlonger⟩ := ih
    rw [List.cons_append, List.splitOn_cons_eq_if_modifyHead, List.splitOn_cons_eq_if_modifyHead,
      hsplit]
    split
    · exact ⟨[] :: init, last, rfl, fun hother => by rw [hlonger hother]; rfl⟩
    · cases init with
      | nil => exact ⟨[], d :: last, rfl, fun hother => by rw [hlonger hother]; rfl⟩
      | cons first init =>
        exact ⟨(d :: first) :: init, last, rfl, fun hother => by rw [hlonger hother]; rfl⟩

/-- The lines of a text of which its normal form consists. -/
def normalLines (content : List Char) : List (List Char) :=
  tidied ((foldLineEnds content).splitOn '\n')

/-- The lines of a normal form are the tidied lines of the text with its line
    ends unified. Trimming the whole text first and its lines later comes to the
    same. -/
theorem normalLines_eq (content : List Char) :
    normalLines content = tidied ((unifyLineEnds content).splitOn '\n') := by
  rw [normalLines, unifyLineEnds_eq_foldLineEnds]

/-- A normal form is known by its lines, which is what is compared from here
    on. -/
theorem normalize_eq_joinLines (content : String) :
    normalize content = String.ofList (joinLines (normalLines content.toList)) := by
  rw [normalize, lines_eq_splitOn, trim_joinLines, normalLines_eq]

/-- The lines that are kept are clean and trimmed, with no empty line at either
    end. This is all that is used of them when they are read again. -/
theorem isNormal_normalLines (content : List Char) : IsNormal (normalLines content) := by
  rw [normalLines_eq]
  refine isNormal_tidied fun line hline => ?_
  obtain ⟨hfeed, hsub⟩ := mem_of_mem_splitOn hline
  exact ⟨fun hreturn => not_mem_unifyLineEnds content (hsub hreturn), hfeed⟩

/-- Joining lines brings in line feeds only. -/
theorem not_mem_joinLines (hclean : ∀ line ∈ ls, '\r' ∉ line) : '\r' ∉ joinLines ls := by
  cases ls with
  | nil => exact List.not_mem_nil
  | cons first rest =>
    obtain ⟨hfirst, hrest⟩ := List.forall_mem_cons.1 hclean
    rw [joinLines, intercalate_cons, List.mem_append, behindFirst, List.mem_flatMap]
    rintro (hmem | ⟨line, hline, hmem⟩)
    · exact hfirst hmem
    · obtain hmem | hmem := List.mem_append.1 hmem
      · exact absurd hmem (by decide)
      · exact hrest line hline hmem

/-- Joined lines are found again by a split, apart from no lines at all, which
    cannot be told from one empty line. -/
theorem splitOn_joinLines (hclean : ∀ line ∈ ls, '\n' ∉ line) :
    (joinLines ls).splitOn '\n' = ls ∨ ls = [] ∧ (joinLines ls).splitOn '\n' = [[]] := by
  obtain rfl | hsome := eq_or_ne ls []
  · exact .inr ⟨rfl, rfl⟩
  · exact .inl (List.splitOn_intercalate '\n' hclean hsome)

/-- The lines of a normal form are found in it again. So the normal form tells
    all of its lines, and tidying it once more takes nothing away. -/
theorem IsNormal.normalLines_joinLines (hnormal : IsNormal ls) :
    normalLines (joinLines ls) = ls := by
  rw [normalLines_eq,
    unifyLineEnds_eq_self (not_mem_joinLines fun line hline => (hnormal.clean line hline).1)]
  obtain hsplit | ⟨rfl, hsplit⟩ := splitOn_joinLines fun line hline => (hnormal.clean line hline).2
  · rw [hsplit, hnormal.tidied_eq]
  · rw [hsplit, tidied_nil_cons, hnormal.tidied_eq]

/-- A normal form has the lines of the text that it comes from. -/
theorem normalLines_normalize (content : String) :
    normalLines (normalize content).toList = normalLines content.toList := by
  rw [normalize_eq_joinLines, String.toList_ofList,
    (isNormal_normalLines content.toList).normalLines_joinLines]

/-- A normal form is its own normal form, as it is known by its lines and they
    stay the same. -/
theorem normalize_normalize (content : String) :
    normalize (normalize content) = normalize content := by
  rw [normalize_eq_joinLines, normalLines_normalize, ← normalize_eq_joinLines]

/-- A normal form tells the lines that count: two texts have the same one
    exactly if they keep the same lines. In particular different lines that
    count are never confused. -/
theorem normalize_eq_iff {a b : String} :
    normalize a = normalize b ↔ normalLines a.toList = normalLines b.toList := by
  constructor
  · intro hsame
    rw [← normalLines_normalize, hsame, normalLines_normalize]
  · intro hsame
    rw [normalize_eq_joinLines, hsame, ← normalize_eq_joinLines]

/-- A text without carriage returns and without white space at its ends or at
    the end of a line. -/
structure IsTidy (text : List Char) : Prop where
  no_return : '\r' ∉ text
  line_end : ∀ line ∈ text.splitOn '\n', ∀ c ∈ line.getLast?, isBlank c = false
  start : ∀ c ∈ text.head?, isBlank c = false
  finish : ∀ c ∈ text.getLast?, isBlank c = false

/-- What has been trimmed at its end does not end in white space. -/
theorem isBlank_of_mem_getLast? (htrimmed : cs.rdropWhile isBlank = cs) (hlast : c ∈ cs.getLast?) :
    isBlank c = false := by
  obtain ⟨hsome, rfl⟩ := List.mem_getLast?_eq_getLast hlast
  simpa using List.rdropWhile_eq_self_iff.1 htrimmed hsome

/-- What has been trimmed does not start with white space. -/
theorem isBlank_of_mem_head?_trim (hfirst : c ∈ (trim cs).head?) : isBlank c = false := by
  have hhead := List.head?_dropWhile_not isBlank (cs.rdropWhile isBlank)
  rw [dropWhile_rdropWhile] at hhead
  rw [trim, trimStart, trimEnd_eq_rdropWhile] at hfirst
  rwa [Option.mem_def.1 hfirst] at hhead

/-- A normal form has no carriage returns, and no white space at its ends or at
    the ends of its lines. -/
theorem isTidy_normalize (content : String) : IsTidy (normalize content).toList := by
  have hnormal := isNormal_normalLines content.toList
  refine ⟨?_, ?_, ?_, ?_⟩
  · rw [normalize_eq_joinLines, String.toList_ofList]
    exact not_mem_joinLines fun line hline => (hnormal.clean line hline).1
  · rw [normalize_eq_joinLines, String.toList_ofList]
    obtain hsplit | ⟨-, hsplit⟩ :=
      splitOn_joinLines fun line hline => (hnormal.clean line hline).2
    · intro line hline c hlast
      rw [hsplit] at hline
      exact isBlank_of_mem_getLast? (hnormal.trimmed line hline) hlast
    · rw [hsplit]
      simp
  · intro c hfirst
    rw [normalize, String.toList_ofList] at hfirst
    exact isBlank_of_mem_head?_trim hfirst
  · intro c hlast
    rw [normalize, String.toList_ofList, trim, trimEnd_eq_rdropWhile] at hlast
    exact isBlank_of_mem_getLast? (List.rdropWhile_idempotent _ _) hlast

/-- White space stays white space when line ends are unified. -/
theorem isBlank_foldChar (hblank : isBlank c = true) : isBlank (foldChar c) = true := by
  unfold foldChar
  split
  · rfl
  · exact hblank

/-- White space in front of a text does not count. It may be a carriage return
    that is lost in a pair with the line feed behind it. -/
theorem normalLines_blank_cons (hblank : isBlank c = true) (cs : List Char) :
    normalLines (c :: cs) = normalLines cs := by
  rw [normalLines_eq, normalLines_eq]
  obtain heq | heq := unifyLineEnds_cons_cases c cs
  · rw [heq]
  · obtain ⟨line, more, hsplit⟩ :=
      List.exists_cons_of_ne_nil (List.splitOn_ne_nil '\n' (unifyLineEnds cs))
    rw [heq, List.splitOn_cons_eq_if_modifyHead, hsplit]
    split
    · exact tidied_nil_cons _
    · exact tidied_blank_cons (isBlank_foldChar hblank) line more

/-- White space behind a text does not count, even if it completes a pair with
    what stands before. -/
theorem normalLines_concat_blank (hblank : isBlank c = true) (cs : List Char) :
    normalLines (cs ++ [c]) = normalLines cs := by
  rw [normalLines_eq, normalLines_eq]
  obtain heq | heq := unifyLineEnds_concat_cases cs c
  · rw [heq]
  · rw [heq]
    obtain ⟨init, last, hsplit, hlonger⟩ := splitOn_concat (unifyLineEnds cs) (foldChar c)
    by_cases hfeed : foldChar c = '\n'
    · rw [hfeed, List.splitOn_append_cons_self]
      exact tidied_concat_nil _
    · rw [hlonger hfeed, hsplit]
      exact tidied_concat_blank (isBlank_foldChar hblank) init last

/-- White space around a text does not count, however much there is and of
    whatever kind. -/
theorem normalLines_append_of_blank (hbefore : ∀ c ∈ before, isBlank c = true)
    (hafter : ∀ c ∈ after, isBlank c = true) (cs : List Char) :
    normalLines (before ++ cs ++ after) = normalLines cs := by
  induction after using List.reverseRecOn with
  | nil =>
    rw [List.append_nil]
    induction before with
    | nil => rfl
    | cons c before ih =>
      obtain ⟨hfirst, hrest⟩ := List.forall_mem_cons.1 hbefore
      rw [List.cons_append, normalLines_blank_cons hfirst, ih hrest]
  | append_singleton after c ih =>
    obtain ⟨hrest, hlast⟩ := List.forall_mem_append.1 hafter
    rw [← List.append_assoc, normalLines_concat_blank (hlast c (List.mem_singleton_self c)),
      ih hrest]

/-- Whatever end the lines of a text have, these are the lines that its normal
    form keeps. So the three kinds of line ends are not told apart. -/
theorem normalLines_intercalate (hend : lineEnd ∈ lineEnds)
    (hclean : ∀ line ∈ ls, '\r' ∉ line ∧ '\n' ∉ line) :
    normalLines (lineEnd.intercalate ls) = tidied ls := by
  cases ls with
  | nil => rfl
  | cons first rest =>
    obtain ⟨hfirst, hrest⟩ := List.forall_mem_cons.1 hclean
    rw [normalLines_eq, intercalate_cons, unifyLineEnds_append hfirst.1,
      unifyLineEnds_behindFirst hend hrest, ← intercalate_cons,
      List.splitOn_intercalate '\n' (fun line hline => (hclean line hline).2)
        (List.cons_ne_nil _ _)]

/-- A text that consists of some lines, with white space behind each of them,
    line ends between each two and white space around them all. -/
def layOut (lineEnd before after : List Char) (ls : List (List Char × List Char)) : List Char :=
  before ++ lineEnd.intercalate (ls.map fun line => line.1 ++ line.2) ++ after

/-- Whether a text that is laid out in this way has the given lines. -/
structure IsLayout (lineEnd before after : List Char) (ls : List (List Char × List Char)) :
    Prop where
  lineEnd_mem : lineEnd ∈ lineEnds
  before_blank : ∀ c ∈ before, isBlank c = true
  after_blank : ∀ c ∈ after, isBlank c = true
  line_clean : ∀ line ∈ ls, '\r' ∉ line.1 ∧ '\n' ∉ line.1
  behind_clean : ∀ line ∈ ls, '\r' ∉ line.2 ∧ '\n' ∉ line.2
  behind_blank : ∀ line ∈ ls, ∀ c ∈ line.2, isBlank c = true

/-- The lines that count do not depend on the layout: neither on the line ends
    nor on white space behind the lines or around the whole. -/
theorem IsLayout.normalLines_layOut {ls : List (List Char × List Char)}
    (hlayout : IsLayout lineEnd before after ls) :
    normalLines (layOut lineEnd before after ls) = tidied (ls.map (·.1)) := by
  have hclean : ∀ line ∈ ls.map (fun line => line.1 ++ line.2), '\r' ∉ line ∧ '\n' ∉ line := by
    intro whole hwhole
    obtain ⟨line, hline, rfl⟩ := List.mem_map.1 hwhole
    obtain ⟨hreturn, hfeed⟩ := hlayout.line_clean line hline
    obtain ⟨hreturn', hfeed'⟩ := hlayout.behind_clean line hline
    rw [List.mem_append, List.mem_append, not_or, not_or]
    exact ⟨⟨hreturn, hreturn'⟩, hfeed, hfeed'⟩
  rw [layOut, normalLines_append_of_blank hlayout.before_blank hlayout.after_blank,
    normalLines_intercalate hlayout.lineEnd_mem hclean]
  refine tidied_congr ?_
  rw [List.map_map, List.map_map]
  exact List.map_congr_left fun line hline =>
    rdropWhile_append_of_pos line.1 (hlayout.behind_blank line hline)

/-- The layout does not count. Texts that differ in it only have the same normal
    form, and so the same hash. -/
theorem IsLayout.normalize_layOut {ls : List (List Char × List Char)}
    (hlayout : IsLayout lineEnd before after ls) :
    normalize (String.ofList (layOut lineEnd before after ls)) =
      normalize (String.ofList (joinLines (ls.map (·.1)))) := by
  have hclean : ∀ line ∈ ls.map (·.1), '\r' ∉ line ∧ '\n' ∉ line :=
    List.forall_mem_map.2 hlayout.line_clean
  rw [normalize_eq_iff, String.toList_ofList, String.toList_ofList, hlayout.normalLines_layOut]
  exact (normalLines_intercalate (by decide) hclean).symm

/-- A line without the carriage return at its end. -/
def withoutReturn (line : List Char) : List Char :=
  if line.getLast? = some '\r' then line.dropLast else line

/-- The lines of a text, each of which ends with a line feed or with a carriage
    return and a line feed. The last one may do without, and no line follows the
    last line feed. -/
def readLines (cs : List Char) : List (List Char) :=
  let pieces := cs.splitOn '\n'
  pieces.dropLast.map withoutReturn ++ pieces.getLast?.toList.filter (!·.isEmpty)

/-- The normal form in passes: line ends are replaced, the lines are read and
    trimmed, and what they are joined to is trimmed. -/
def normalizeInPasses (content : List Char) : List Char :=
  trim (joinLines ((readLines (foldLineEnds content)).map trimEnd))

/-- A line without carriage returns loses none when it is read. -/
theorem withoutReturn_eq_self {line : List Char} (hclean : '\r' ∉ line) :
    withoutReturn line = line :=
  if_neg fun hlast => hclean (List.mem_of_getLast? hlast)

/-- Lines that are read one by one lose an empty last line at most, and that one
    is tidied away anyhow. -/
theorem tidied_readLines (hclean : '\r' ∉ cs) :
    tidied (readLines cs) = tidied (cs.splitOn '\n') := by
  obtain ⟨init, last, hsplit, -⟩ := splitOn_concat cs '\n'
  have hinit : init.map withoutReturn = init := by
    have hself : ∀ line ∈ init, withoutReturn line = id line := by
      intro line hline
      have hmem : line ∈ cs.splitOn '\n' := hsplit ▸ List.mem_append_left _ hline
      exact withoutReturn_eq_self fun hreturn => hclean ((mem_of_mem_splitOn hmem).2 hreturn)
    rw [List.map_congr_left hself, List.map_id]
  rw [readLines, hsplit, List.dropLast_concat, List.getLast?_concat, hinit]
  cases last with
  | nil => rw [tidied_concat_nil]; simp
  | cons c last => rfl

/-- The normal form that is found in passes over the text is the one that is
    found from its lines. -/
theorem normalizeInPasses_eq (content : List Char) :
    normalizeInPasses content = joinLines (normalLines content) := by
  have hclean := not_mem_unifyLineEnds content
  rw [unifyLineEnds_eq_foldLineEnds] at hclean
  rw [normalizeInPasses, trim_joinLines, tidied_readLines hclean, normalLines]

/-- The normal form consists of the lines that count, however it is found. It is
    tidy, and it is its own normal form. It does not depend on the line ends of
    a text or on white space around it and behind its lines, and neither does
    the hash, but it depends on everything else. -/
theorem normalize_isNormalForm :
    (∀ content : String,
      normalize content = String.ofList (joinLines (normalLines content.toList)) ∧
        normalize content = String.ofList (normalizeInPasses content.toList) ∧
        normalize (normalize content) = normalize content ∧
        IsTidy (normalize content).toList) ∧
      (∀ (lineEnd before after : List Char) (ls : List (List Char × List Char)),
        IsLayout lineEnd before after ls →
          normalize (String.ofList (layOut lineEnd before after ls)) =
              normalize (String.ofList (joinLines (ls.map (·.1)))) ∧
            contentHash (String.ofList (layOut lineEnd before after ls)) =
              contentHash (String.ofList (joinLines (ls.map (·.1))))) ∧
      ∀ a b : String, normalLines a.toList ≠ normalLines b.toList → normalize a ≠ normalize b := by
  refine ⟨fun content => ?_, fun lineEnd before after ls hlayout => ?_, fun a b hlines => ?_⟩
  · refine ⟨normalize_eq_joinLines content, ?_, normalize_normalize content,
      isTidy_normalize content⟩
    rw [normalizeInPasses_eq, ← normalize_eq_joinLines]
  · exact ⟨hlayout.normalize_layOut, contentHash_congr hlayout.normalize_layOut⟩
  · exact mt normalize_eq_iff.1 hlines

/-- An indented line, an empty one and another indented line, two of them with
    white space behind them. -/
def paddedSample : List (List Char × List Char) :=
  [([' ', 'a'], ['\t']), ([], []), ([' ', 'b'], [' ', '\u3000'])]

/-- Two lines with an empty one between them, other line ends and white space
    around have the same normal form as without these. Without the empty line
    they have another one. -/
theorem normalize_isNormalForm_paddedSample :
    IsLayout ['\r'] ['\n', ' '] ['\r', '\n'] paddedSample ∧
      normalize (String.ofList (layOut ['\r'] ['\n', ' '] ['\r', '\n'] paddedSample)) =
        normalize (String.ofList [' ', 'a', '\n', '\n', ' ', 'b']) ∧
      normalLines "a\n\n b".toList ≠ normalLines "a\n b".toList ∧
      normalize "a\n\n b" ≠ normalize "a\n b" := by
  have hlayout : IsLayout ['\r'] ['\n', ' '] ['\r', '\n'] paddedSample :=
    { lineEnd_mem := by decide
      before_blank := List.all_eq_true.1 rfl
      after_blank := List.all_eq_true.1 rfl
      line_clean := by decide
      behind_clean := by decide
      behind_blank := fun line hline => List.all_eq_true.1
        (List.all_eq_true.1 (show paddedSample.all (·.2.all isBlank) from rfl) line hline) }
  have hlines : normalLines "a\n\n b".toList ≠ normalLines "a\n b".toList := by decide +kernel
  exact ⟨hlayout, (normalize_isNormalForm.2.1 _ _ _ _ hlayout).1, hlines,
    normalize_isNormalForm.2.2 _ _ hlines⟩

end PromptPacks.Digest
