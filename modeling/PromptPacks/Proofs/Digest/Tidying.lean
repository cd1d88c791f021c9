import PromptPacks.Proofs.Digest.LineEnds
import PromptPacks.Proofs.Text.Trimming

namespace PromptPacks.Digest

open PromptPacks.Text

/-- Some lines without the white space before the first of them. -/
def stripFirst : List (List Char) → List (List Char)
  | [] => []
  | first :: rest => first.dropWhile isBlank :: rest

/-- What counts of some lines: the white space behind each is left out, then the
    empty lines before and behind all others, then the white space before the
    first line that is left. -/
def tidied (ls : List (List Char)) : List (List Char) :=
  stripFirst (((ls.map (·.rdropWhile isBlank)).dropWhile (·.isEmpty)).rdropWhile (·.isEmpty))

variable {line first : List Char} {ls ms rest : List (List Char)} {c : Char}

/-- A line that has been trimmed and is not empty does not consist of white
    space. So the first line that is not empty is where the text starts. -/
theorem dropWhile_ne_nil (htrimmed : line.rdropWhile isBlank = line) (hline : line ≠ []) :
    line.dropWhile isBlank ≠ [] := by
  intro hnone
  rw [List.rdropWhile_eq_nil_iff.2 (List.dropWhile_eq_nil_iff.1 hnone)] at htrimmed
  exact hline htrimmed.symm

/-- A trimmed line stays trimmed at its end when white space is dropped at its
    start. -/
theorem rdropWhile_dropWhile_self (htrimmed : line.rdropWhile isBlank = line) :
    (line.dropWhile isBlank).rdropWhile isBlank = line.dropWhile isBlank := by
  rw [← dropWhile_rdropWhile, htrimmed]

/-- To drop white space in front of joined lines is to leave out the empty ones
    and to drop it in front of the first other one. All lines but this one keep
    their indentation. -/
theorem trimStart_joinLines (htrimmed : ∀ line ∈ ms, line.rdropWhile isBlank = line) :
    trimStart (joinLines ms) = joinLines (stripFirst (ms.dropWhile (·.isEmpty))) := by
  induction ms with
  | nil => rfl
  | cons line ms ih =>
    obtain ⟨hline, hrest⟩ := List.forall_mem_cons.1 htrimmed
    cases line with
    | nil =>
      rw [List.dropWhile_cons_of_pos rfl, ← ih hrest]
      cases ms with
      | nil => rfl
      | cons next ms =>
        rw [joinLines, intercalate_cons, behindFirst_cons, ← intercalate_cons]
        rfl
    | cons c line =>
      have hsome := dropWhile_ne_nil hline (by simp)
      rw [List.dropWhile_cons_of_neg (by simp), joinLines, intercalate_cons, trimStart,
        List.dropWhile_append, if_neg (by simpa using hsome), stripFirst, joinLines,
        intercalate_cons]

/-- To drop white space behind joined lines is to leave out the empty ones at
    the end, provided that each line has been trimmed there. -/
theorem rdropWhile_behindFirst (htrimmed : ∀ line ∈ ms, line.rdropWhile isBlank = line) :
    (behindFirst ['\n'] ms).rdropWhile isBlank =
      behindFirst ['\n'] (ms.rdropWhile (·.isEmpty)) := by
  induction ms using List.reverseRecOn with
  | nil => rfl
  | append_singleton ms line ih =>
    obtain ⟨hrest, hline⟩ := List.forall_mem_append.1 htrimmed
    have hlast := hline line (List.mem_singleton_self line)
    have hconcat : behindFirst ['\n'] (ms ++ [line]) = behindFirst ['\n'] ms ++ '\n' :: line := by
      rw [behindFirst, List.flatMap_append, List.flatMap_singleton]
      rfl
    rw [hconcat]
    cases line with
    | nil =>
      have hfeed : ∀ c ∈ ['\n'], isBlank c = true := List.forall_mem_singleton.2 rfl
      rw [rdropWhile_append_of_pos _ hfeed, ih hrest, List.rdropWhile_concat_pos _ _ _ rfl]
    | cons c line =>
      have hkept : ('\n' :: c :: line).rdropWhile isBlank = '\n' :: c :: line := by
        have hsome : (c :: line).rdropWhile isBlank ≠ [] := by simp [hlast]
        rw [← List.singleton_append, rdropWhile_append_of_ne_nil _ hsome, hlast]
      rw [rdropWhile_append_of_ne_nil _ (by simp [hkept]), hkept,
        List.rdropWhile_concat_neg _ _ _ (by simp), hconcat]

/-- The same with a first line, which is kept even if it is empty. -/
theorem trimEnd_joinLines (htrimmed : ∀ line ∈ first :: rest, line.rdropWhile isBlank = line) :
    trimEnd (joinLines (first :: rest)) = joinLines (first :: rest.rdropWhile (·.isEmpty)) := by
  obtain ⟨hfirst, hrest⟩ := List.forall_mem_cons.1 htrimmed
  rw [joinLines, joinLines, intercalate_cons, intercalate_cons, trimEnd_eq_rdropWhile,
    rdropWhile_append_of_self hfirst, rdropWhile_behindFirst hrest]

/-- To trim the joined lines is to join the tidied ones. So the lines of a
    normal form can be told without looking at the joined text. -/
theorem trim_joinLines (ls : List (List Char)) :
    trim (joinLines (ls.map trimEnd)) = joinLines (tidied ls) := by
  have htrimmed : ∀ line ∈ ls.map (·.rdropWhile isBlank), line.rdropWhile isBlank = line := by
    intro line hline
    obtain ⟨whole, -, rfl⟩ := List.mem_map.1 hline
    exact List.rdropWhile_idempotent _ _
  change trim (joinLines (ls.map (·.rdropWhile isBlank))) = _
  rw [trim, trimStart_joinLines htrimmed, tidied]
  have hsuffix := List.dropWhile_suffix (·.isEmpty) (l := ls.map (·.rdropWhile isBlank))
  have hhead := List.head?_dropWhile_not (·.isEmpty) (ls.map (·.rdropWhile isBlank))
  cases hkept : (ls.map (·.rdropWhile isBlank)).dropWhile (·.isEmpty) with
  | nil => rfl
  | cons first rest =>
    rw [hkept] at hsuffix hhead
    have hall : ∀ line ∈ first :: rest, line.rdropWhile isBlank = line :=
      fun line hline => htrimmed line (hsuffix.subset hline)
    obtain ⟨hfirst, hrest⟩ := List.forall_mem_cons.1 hall
    have hstripped : ∀ line ∈ first.dropWhile isBlank :: rest, line.rdropWhile isBlank = line :=
      List.forall_mem_cons.2 ⟨rdropWhile_dropWhile_self hfirst, hrest⟩
    rw [stripFirst, trimEnd_joinLines hstripped, rdropWhile_cons_of_neg (by simpa using hhead),
      stripFirst]

/-- The lines of a normal form. -/
structure IsNormal (ls : List (List Char)) : Prop where
  clean : ∀ line ∈ ls, '\r' ∉ line ∧ '\n' ∉ line
  trimmed : ∀ line ∈ ls, line.rdropWhile isBlank = line
  first : ∀ line ∈ ls.head?, line ≠ [] ∧ line.dropWhile isBlank = line
  last : ∀ line ∈ ls.getLast?, line ≠ []

/-- Of lines that are tidied nothing more is left out. With this the normal form
    of a normal form needs no computation. -/
theorem IsNormal.tidied_eq (hnormal : IsNormal ls) : tidied ls = ls := by
  have htrimmed : ls.map (·.rdropWhile isBlank) = ls := by
    rw [List.map_congr_left hnormal.trimmed, List.map_id']
  have hlast : ls.rdropWhile (·.isEmpty) = ls := by
    refine List.rdropWhile_eq_self_iff.2 fun hsome => ?_
    simpa using hnormal.last _ (List.getLast?_eq_some_getLast hsome)
  rw [tidied, htrimmed]
  cases ls with
  | nil => rfl
  | cons first rest =>
    obtain ⟨hfirst, hstart⟩ := hnormal.first first rfl
    rw [List.dropWhile_cons_of_neg (by simpa using hfirst), hlast, stripFirst, hstart]

/-- A part of a line without line ends has none. -/
theorem clean_of_subset {part : List Char} (hclean : '\r' ∉ line ∧ '\n' ∉ line)
    (hsubset : part ⊆ line) : '\r' ∉ part ∧ '\n' ∉ part :=
  ⟨fun hreturn => hclean.1 (hsubset hreturn), fun hfeed => hclean.2 (hsubset hfeed)⟩

/-- Lines that are clean and trimmed and have no empty line at their ends stay
    so when white space in front of the first one is dropped, as it does not
    consist of white space. -/
theorem isNormal_stripFirst (hclean : ∀ line ∈ ms, '\r' ∉ line ∧ '\n' ∉ line)
    (htrimmed : ∀ line ∈ ms, line.rdropWhile isBlank = line)
    (hfirst : ∀ line ∈ ms.head?, line ≠ []) (hlast : ∀ line ∈ ms.getLast?, line ≠ []) :
    IsNormal (stripFirst ms) := by
  cases ms with
  | nil => exact ⟨hclean, htrimmed, by simp [stripFirst], by simp [stripFirst]⟩
  | cons first rest =>
    obtain ⟨hcleanFirst, hcleanRest⟩ := List.forall_mem_cons.1 hclean
    obtain ⟨htrimmedFirst, htrimmedRest⟩ := List.forall_mem_cons.1 htrimmed
    have hsome := dropWhile_ne_nil htrimmedFirst (hfirst first rfl)
    refine ⟨?_, ?_, ?_, ?_⟩
    · exact List.forall_mem_cons.2
        ⟨clean_of_subset hcleanFirst (List.dropWhile_sublist isBlank).subset, hcleanRest⟩
    · exact List.forall_mem_cons.2 ⟨rdropWhile_dropWhile_self htrimmedFirst, htrimmedRest⟩
    · rintro _ ⟨⟩
      exact ⟨hsome, List.dropWhile_idempotent _ _⟩
    · cases rest with
      | nil =>
        rintro _ ⟨⟩
        exact hsome
      | cons next rest => simpa [stripFirst] using hlast

/-- Whatever the lines are, as long as they have no line ends, the tidied ones
    are in normal form. -/
theorem isNormal_tidied (hclean : ∀ line ∈ ls, '\r' ∉ line ∧ '\n' ∉ line) :
    IsNormal (tidied ls) := by
  have hmem : ∀ line ∈ ((ls.map (·.rdropWhile isBlank)).dropWhile (·.isEmpty)).rdropWhile
      (·.isEmpty), ∃ whole ∈ ls, whole.rdropWhile isBlank = line := fun line hline =>
    List.mem_map.1 ((List.dropWhile_sublist _).subset ((List.rdropWhile_prefix _ _).subset hline))
  refine isNormal_stripFirst ?_ ?_ ?_ ?_
  · intro line hline
    obtain ⟨whole, hwhole, rfl⟩ := hmem line hline
    exact clean_of_subset (hclean whole hwhole) (List.rdropWhile_prefix isBlank whole).subset
  · intro line hline
    obtain ⟨whole, -, rfl⟩ := hmem line hline
    exact List.rdropWhile_idempotent _ _
  · rw [← dropWhile_rdropWhile]
    have hhead := List.head?_dropWhile_not (·.isEmpty)
      ((ls.map (·.rdropWhile isBlank)).rdropWhile (·.isEmpty))
    intro line hline
    rw [Option.mem_def.1 hline] at hhead
    simpa using hhead
  · intro line hline
    obtain ⟨hsome, rfl⟩ := List.mem_getLast?_eq_getLast hline
    simpa using List.rdropWhile_last_not _ _ hsome

/-- Lines that agree up to white space at their ends are tidied alike. -/
theorem tidied_congr (hsame : ls.map (·.rdropWhile isBlank) = ms.map (·.rdropWhile isBlank)) :
    tidied ls = tidied ms := by
  rw [tidied, tidied, hsame]

/-- An empty line in front does not count. -/
theorem tidied_nil_cons (ls : List (List Char)) : tidied ([] :: ls) = tidied ls :=
  rfl

/-- An empty line at the end does not count. -/
theorem tidied_concat_nil (ls : List (List Char)) : tidied (ls ++ [[]]) = tidied ls := by
  rw [tidied, tidied, ← dropWhile_rdropWhile, ← dropWhile_rdropWhile, List.map_append,
    List.map_singleton, List.rdropWhile_nil, List.rdropWhile_concat_pos _ _ _ rfl]

/-- White space behind the last line does not count. -/
theorem tidied_concat_blank (hblank : isBlank c = true) (ls : List (List Char))
    (line : List Char) : tidied (ls ++ [line ++ [c]]) = tidied (ls ++ [line]) := by
  refine tidied_congr ?_
  rw [List.map_append, List.map_append, List.map_singleton, List.map_singleton,
    List.rdropWhile_concat_pos _ _ _ hblank]

/-- White space in front of the first line does not count, in contrast to that
    in front of the others. -/
theorem tidied_blank_cons (hblank : isBlank c = true) (line : List Char)
    (ls : List (List Char)) : tidied ((c :: line) :: ls) = tidied (line :: ls) := by
  obtain hnone | hsome := eq_or_ne (line.rdropWhile isBlank) []
  · refine tidied_congr ?_
    have hall : ∀ x ∈ c :: line, isBlank x = true :=
      List.forall_mem_cons.2 ⟨hblank, List.rdropWhile_eq_nil_iff.1 hnone⟩
    rw [List.map_cons, List.map_cons, hnone, List.rdropWhile_eq_nil_iff.2 hall]
  · have hlonger : (c :: line).rdropWhile isBlank = c :: line.rdropWhile isBlank :=
      rdropWhile_append_of_ne_nil [c] hsome
    have hkept : (line.rdropWhile isBlank).isEmpty = false := by simpa using hsome
    rw [tidied, tidied, List.map_cons, List.map_cons, hlonger,
      List.dropWhile_cons_of_neg (by simp), List.dropWhile_cons_of_neg (by simpa using hsome),
      rdropWhile_cons_of_neg rfl, rdropWhile_cons_of_neg hkept, stripFirst, stripFirst,
      List.dropWhile_cons_of_pos hblank]

end PromptPacks.Digest
