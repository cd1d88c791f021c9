import PromptPacks.Proofs.Template.Respelling
import PromptPacks.Proofs.Template.Wholeness

namespace PromptPacks.Template

open PromptPacks.Text

/-- What is found in a text behind a part of it: the name that the rest of the
    text starts with, at the place where this rest starts. The part does not end
    with a character of a name. -/
structure FoundBehind (offset : Nat) (before rest : List Char) (found : Located String) : Prop where
  leads : leadingName rest = some found.value.toList
  offset_eq : found.offset = offset + byteSize before
  free : ∀ c ∈ before.getLast?, isNameChar c = false

/-- The byte offset at which the body of a tag ends. -/
def Tag.stop (tag : Tag) : Nat :=
  tag.offset + byteSize tag.body

/-- Whether a tag ends before another one starts: two characters close the one,
    two open the other. -/
def Tag.IsBefore (tag later : Tag) : Prop :=
  tag.stop + 4 ≤ later.offset

/-- Whether the place and the characters of a name lie within the body of a
    tag. -/
def Tag.Holds (tag : Tag) (found : Located String) : Prop :=
  tag.offset ≤ found.offset ∧ found.offset + byteSize found.value.toList ≤ tag.stop

/-- All that is found in a tag. -/
def Tag.names (tag : Tag) : List (Located String) :=
  tag.keyword?.toList ++ tag.filters

/-- A name is a first part of its text, is not empty and goes as far as it can. -/
theorem exists_append_of_leadingName {word cs : List Char} (hword : leadingName cs = some word) :
    word ≠ [] ∧ ∃ behind, cs = word ++ behind ∧ ∀ c ∈ behind.head?, isNameChar c = false := by
  obtain ⟨c, rest, rfl, -, rfl⟩ := exists_of_leadingName hword
  refine ⟨List.cons_ne_nil _ _, rest.dropWhile isNameChar, ?_, fun d hd => ?_⟩
  · rw [List.cons_append, List.takeWhile_append_dropWhile]
  · have hhead := List.head?_dropWhile_not isNameChar rest
    rw [Option.mem_def.1 hd] at hhead
    exact hhead

namespace FoundBehind

variable {offset : Nat} {before rest : List Char} {found : Located String}

/-- What is found at some rest of a text is the name that the rest starts with,
    if nothing before the rest belongs to it. -/
theorem of_locatedName? (hfound : locatedName? offset (before ++ rest) rest = some found)
    (hfree : ∀ c ∈ before.getLast?, isNameChar c = false) :
    FoundBehind offset before rest found := by
  obtain ⟨word, hword, rfl⟩ := Option.map_eq_some_iff.1 hfound
  exact ⟨by rw [hword, String.toList_ofList], by simp, hfree⟩

/-- A name that is found behind a part of a text is no part of a longer name
    there. -/
theorem standsWhole (hfound : FoundBehind offset before rest found) :
    StandsWhole isNameChar (before ++ rest) found.value.toList (byteSize before) := by
  obtain ⟨-, behind, rfl, hbehind⟩ := exists_append_of_leadingName hfound.leads
  refine ⟨before, behind, rfl, rfl, ?_, ?_⟩
  · rintro ⟨c, hc, -, -, hname, -⟩
    rw [hfound.free c hc] at hname
    cases hname
  · rintro ⟨-, -, d, hd, -, hname⟩
    rw [hbehind d hd] at hname
    cases hname

/-- A name that is found behind a part of the body of a tag lies within the
    tag. -/
theorem holds {tag : Tag} (hfound : FoundBehind tag.offset before rest found)
    (hbody : tag.body = before ++ rest) : tag.Holds found := by
  obtain ⟨-, behind, rfl, -⟩ := exists_append_of_leadingName hfound.leads
  rw [Tag.Holds, Tag.stop, hfound.offset_eq, hbody, byteSize_append, byteSize_append]
  omega

/-- A character before the text moves the place of what is found by its size. It
    must not be one of a name where the name would come right behind it. -/
theorem cons {c : Char} (hfree : before = [] → isNameChar c = false)
    (hfound : FoundBehind (offset + c.utf8Size) before rest found) :
    FoundBehind offset (c :: before) rest found where
  leads := hfound.leads
  offset_eq := by rw [hfound.offset_eq, byteSize_cons, Nat.add_assoc]
  free := by
    cases before with
    | nil =>
      intro d hd
      cases hd
      exact hfree rfl
    | cons d more =>
      rw [List.getLast?_cons_cons]
      exact hfound.free

end FoundBehind

/-- A part of a text that white space follows does not end with a character of a
    name. -/
theorem free_append_blanks {before blanks : List Char} (hblank : ∀ c ∈ blanks, isBlank c = true)
    (hbefore : blanks = [] → ∀ c ∈ before.getLast?, isNameChar c = false) :
    ∀ c ∈ (before ++ blanks).getLast?, isNameChar c = false := by
  intro c hc
  rw [Option.mem_def, List.getLast?_append, Option.or_eq_some_iff] at hc
  obtain hc | ⟨hnone, hc⟩ := hc
  · exact isNameChar_eq_false (hblank c (List.mem_of_mem_getLast? hc))
  · exact hbefore (List.getLast?_eq_none_iff.1 hnone) c hc

/-- What is taken from a text as white space is white space. -/
theorem isBlank_of_mem_takeWhile (cs : List Char) : ∀ c ∈ cs.takeWhile isBlank, isBlank c = true :=
  List.all_eq_true.1 List.all_takeWhile

/-- The start of the body of a tag: a sign, if there is one, and white space. No
    name reaches into it. -/
theorem exists_inside_eq (body : List Char) :
    ∃ lead, body = lead ++ (dropSign body).dropWhile isBlank ∧ '|' ∉ lead ∧
      ∀ c ∈ lead.getLast?, isNameChar c = false := by
  obtain ⟨sign, happend, hsign⟩ := exists_sign body
  have hblank := isBlank_of_mem_takeWhile (dropSign body)
  refine ⟨sign ++ (dropSign body).takeWhile isBlank, ?_, ?_, ?_⟩
  · rw [List.append_assoc, List.takeWhile_append_dropWhile, ← happend]
  · intro hbar
    obtain hbar | hbar := List.mem_append.1 hbar
    · obtain rfl | rfl | rfl := hsign <;> simp at hbar
    · cases hblank _ hbar
  · refine free_append_blanks hblank fun _ c hc => ?_
    obtain rfl | rfl | rfl := hsign <;> cases hc <;> decide

/-- The first word of a tag is found behind the start of its body. -/
theorem Tag.exists_of_keyword? {tag : Tag} {found : Located String}
    (hfound : tag.keyword? = some found) :
    ∃ before rest, tag.body = before ++ rest ∧ FoundBehind tag.offset before rest found := by
  unfold Tag.keyword? at hfound
  split at hfound
  · obtain ⟨lead, hbody, -, hfree⟩ := exists_inside_eq tag.body
    generalize (dropSign tag.body).dropWhile isBlank = inside at hbody hfound
    rw [hbody] at hfound
    exact ⟨lead, inside, hbody, .of_locatedName? hfound hfree⟩
  · cases hfound

/-- The name of a filter block stands before all bars of the tag, so it comes
    first among the filters. -/
theorem Tag.exists_of_blockFilter? {tag : Tag} {found : Located String}
    (hfound : tag.blockFilter? = some found) :
    ∃ before rest, tag.body = before ++ rest ∧ '|' ∉ before ∧
      FoundBehind tag.offset before rest found := by
  unfold Tag.blockFilter? at hfound
  split at hfound
  · obtain ⟨lead, hbody, hbars, -⟩ := exists_inside_eq tag.body
    generalize (dropSign tag.body).dropWhile isBlank = inside at hbody hfound
    split at hfound
    next behind hbehind =>
      split at hfound
      next hspaced =>
        have hinside := eq_append_of_after? hbehind
        have hblank := isBlank_of_mem_takeWhile behind
        have hbefore : tag.body = lead ++ "filter".toList ++ behind.takeWhile isBlank ++
            behind.dropWhile isBlank := by
          rw [List.append_assoc _ (behind.takeWhile isBlank), List.takeWhile_append_dropWhile,
            List.append_assoc, ← hinside, ← hbody]
        have hnonempty : behind.takeWhile isBlank ≠ [] := by
          cases behind with
          | nil => cases hspaced
          | cons c rest =>
            rw [List.takeWhile_cons_of_pos (by simpa using hspaced)]
            exact List.cons_ne_nil _ _
        refine ⟨_, _, hbefore, ?_, .of_locatedName? (hbefore ▸ hfound) ?_⟩
        · simp only [List.mem_append, not_or]
          refine ⟨⟨hbars, by decide⟩, fun hbar => ?_⟩
          cases hblank _ hbar
        · exact free_append_blanks hblank fun hnil => absurd hnil hnonempty
      next => cases hfound
    next => cases hfound
  · cases hfound

/-- What is found behind a bar, with nothing but white space between the two. -/
theorem exists_of_bar {offset : Nat} {cs : List Char} {found : Located String}
    (hfound : locatedName? offset cs (cs.dropWhile isBlank) = some found) :
    ∃ blanks rest, cs = blanks ++ rest ∧ '|' ∉ blanks ∧ FoundBehind offset blanks rest found := by
  have hblank := isBlank_of_mem_takeWhile cs
  have hfree : ∀ c ∈ ([] ++ cs.takeWhile isBlank).getLast?, isNameChar c = false :=
    free_append_blanks hblank nofun
  have hbars : '|' ∉ cs.takeWhile isBlank := fun hbar => by cases hblank _ hbar
  have happend : cs = cs.takeWhile isBlank ++ cs.dropWhile isBlank :=
    List.takeWhile_append_dropWhile.symm
  generalize cs.takeWhile isBlank = blanks, cs.dropWhile isBlank = rest at *
  subst happend
  exact ⟨blanks, rest, rfl, hbars, .of_locatedName? hfound hfree⟩

/-- Everything that is found behind bars has at least a bar before it, so its
    place is never that of the text. -/
theorem exists_of_mem_pipedNames {offset : Nat} {cs : List Char} {found : Located String}
    (hmem : found ∈ pipedNames offset cs) :
    ∃ before rest, cs = before ++ rest ∧ before ≠ [] ∧ FoundBehind offset before rest found := by
  induction cs generalizing offset with
  | nil => cases hmem
  | cons c cs ih =>
    have hlater (hmem : found ∈ pipedNames (offset + c.utf8Size) cs) :
        ∃ before rest, c :: cs = before ++ rest ∧ before ≠ [] ∧
          FoundBehind offset before rest found := by
      obtain ⟨before, rest, rfl, hbefore, hfound⟩ := ih hmem
      exact ⟨c :: before, rest, rfl, List.cons_ne_nil _ _,
        hfound.cons fun hnil => absurd hnil hbefore⟩
    rw [pipedNames] at hmem
    split at hmem
    next hbar =>
      obtain hmem | hmem := List.mem_append.1 hmem
      · obtain ⟨blanks, rest, rfl, -, hfound⟩ := exists_of_bar (Option.mem_toList.1 hmem)
        refine ⟨c :: blanks, rest, rfl, List.cons_ne_nil _ _, hfound.cons fun _ => ?_⟩
        rw [eq_of_beq hbar]
        decide
      · exact hlater hmem
    next => exact hlater hmem

/-- All that is found in a tag stands behind a part of its body, be it the first
    word, the filter of a block or one behind a bar. -/
theorem Tag.exists_of_mem_names {tag : Tag} {found : Located String} (hmem : found ∈ tag.names) :
    ∃ before rest, tag.body = before ++ rest ∧ FoundBehind tag.offset before rest found := by
  obtain hmem | hmem := List.mem_append.1 hmem
  · exact tag.exists_of_keyword? (Option.mem_toList.1 hmem)
  obtain hmem | hmem := List.mem_append.1 hmem
  · obtain ⟨before, rest, hbody, -, hfound⟩ := tag.exists_of_blockFilter? (Option.mem_toList.1 hmem)
    exact ⟨before, rest, hbody, hfound⟩
  · obtain ⟨before, rest, hbody, -, hfound⟩ := exists_of_mem_pipedNames hmem
    exact ⟨before, rest, hbody, hfound⟩

/-- Whatever is found behind bars comes later than the start of the text. -/
theorem lt_offset_of_mem_pipedNames {offset : Nat} {cs : List Char} {found : Located String}
    (hmem : found ∈ pipedNames offset cs) : offset < found.offset := by
  obtain ⟨before, rest, rfl, hbefore, hfound⟩ := exists_of_mem_pipedNames hmem
  obtain ⟨c, more, rfl⟩ := List.exists_cons_of_ne_nil hbefore
  have hpos := c.utf8Size_pos
  rw [hfound.offset_eq, byteSize_cons]
  omega

/-- Text without bars only moves the places of what is found behind it. -/
theorem pipedNames_append {before : List Char} (hbars : '|' ∉ before) (offset : Nat)
    (rest : List Char) :
    pipedNames offset (before ++ rest) = pipedNames (offset + byteSize before) rest := by
  induction before generalizing offset with
  | nil => rfl
  | cons c before ih =>
    obtain ⟨hc, hbefore⟩ := List.ne_and_not_mem_of_not_mem_cons hbars
    rw [List.cons_append, pipedNames, if_neg (by simpa using Ne.symm hc), ih hbefore, byteSize_cons,
      Nat.add_assoc]

/-- What is found before the first bar of a text comes first. -/
theorem FoundBehind.lt_of_mem_pipedNames {offset : Nat} {before rest : List Char}
    {found later : Located String} (hfound : FoundBehind offset before rest found)
    (hbars : '|' ∉ before) (hmem : later ∈ pipedNames offset (before ++ rest)) :
    found.offset < later.offset := by
  rw [pipedNames_append hbars, ← hfound.offset_eq] at hmem
  exact lt_offset_of_mem_pipedNames hmem

/-- Filters behind bars are found in the order of their places, as each bar
    stands behind the name that follows the one before. -/
theorem pairwise_pipedNames (offset : Nat) (cs : List Char) :
    (pipedNames offset cs).Pairwise (·.offset < ·.offset) := by
  induction cs generalizing offset with
  | nil => exact .nil
  | cons c cs ih =>
    rw [pipedNames]
    split
    · refine List.pairwise_append.2 ⟨?_, ih _, fun found hfound later hlater => ?_⟩
      · cases locatedName? (offset + c.utf8Size) cs (cs.dropWhile isBlank) <;> simp
      · obtain ⟨blanks, rest, rfl, hbars, hfound⟩ := exists_of_bar (Option.mem_toList.1 hfound)
        exact hfound.lt_of_mem_pipedNames hbars hlater
    · exact ih _

/-- All filters of a tag are found in the order of their places. -/
theorem Tag.pairwise_filters (tag : Tag) : tag.filters.Pairwise (·.offset < ·.offset) := by
  refine List.pairwise_append.2
    ⟨?_, pairwise_pipedNames _ _, fun found hfound later hlater => ?_⟩
  · cases tag.blockFilter? <;> simp
  · obtain ⟨before, rest, hbody, hbars, hfound⟩ :=
      tag.exists_of_blockFilter? (Option.mem_toList.1 hfound)
    rw [hbody] at hlater
    exact hfound.lt_of_mem_pipedNames hbars hlater

/-- All that is found in a tag lies within its body. -/
theorem Tag.holds_of_mem_names {tag : Tag} {found : Located String} (hmem : found ∈ tag.names) :
    tag.Holds found := by
  obtain ⟨before, rest, hbody, hfound⟩ := tag.exists_of_mem_names hmem
  exact hfound.holds hbody

/-- Blanking leaves the size of a text as it is, in bytes. -/
theorem Blanked.byteSize_eq {cs ds : List Char} (hblanked : Blanked cs ds) :
    byteSize ds = byteSize cs := by
  induction hblanked with
  | nil => rfl
  | keep c _ ih => rw [byteSize_cons, byteSize_cons, ih]
  | blank c _ ih => rw [byteSize_append, spaces, byteSize_replicate_space, byteSize_cons, ih]

/-- A body takes as many bytes without its strings. -/
theorem byteSize_withoutStrings (body : List Char) :
    byteSize (withoutStrings body) = byteSize body :=
  (blanked_blankParts stringPart? [] body).byteSize_eq

/-- A tag is found behind the characters that belong to an earlier one. Two more
    bytes are taken by its own opening. -/
theorem le_offset_of_mem_tagsFrom {passed offset : Nat} {cs : List Char} {tag : Tag}
    (hmem : tag ∈ tagsFrom passed offset cs) :
    offset + byteSize (cs.take passed) + 2 ≤ tag.offset := by
  induction cs generalizing passed offset with
  | nil => cases passed <;> simp [tagsFrom] at hmem
  | cons c rest ih =>
    cases passed with
    | succ passed =>
      have hle := ih hmem
      rw [List.take_succ_cons, byteSize_cons]
      omega
    | zero =>
      rw [List.take_zero, byteSize_nil]
      rw [tagsFrom] at hmem
      split at hmem
      next =>
        obtain rfl | hmem := List.mem_cons.1 hmem
        · exact Nat.le_refl _
        · have hle := ih hmem
          omega
      next =>
        have hle := ih hmem
        omega

/-- A tag is found before all tags that are found behind its last character. The
    two pairs of delimiters are the four bytes that lie between. -/
theorem isBefore_of_opening? {c : Char} {rest : List Char} {isStatement : Bool}
    {length offset : Nat} (hopening : opening? (c :: rest) = some (isStatement, length))
    {later : Tag} (hlater : later ∈ tagsFrom (length + 3) (offset + c.utf8Size) rest) :
    Tag.IsBefore ⟨isStatement, withoutStrings ((rest.drop 1).take length), offset + 2⟩ later := by
  obtain ⟨first, body, last, behind, hcs, hmarks, rfl⟩ := exists_of_opening? hopening
  obtain ⟨rfl, rfl⟩ := List.cons.inj hcs
  have hle := le_offset_of_mem_tagsFrom hlater
  have htake : (first :: (body ++ last :: '\x7d' :: behind)).take (body.length + 3) =
      first :: (body ++ [last, '\x7d']) := by
    rw [List.take_succ_cons, List.take_length_add_append]
    rfl
  have hopen : '\x7b'.utf8Size = 1 := rfl
  have hclose : '\x7d'.utf8Size = 1 := rfl
  have hsize : byteSize (first :: (body ++ [last, '\x7d'])) = byteSize body + 3 := by
    simp only [byteSize_cons, byteSize_append, byteSize_nil, hmarks.utf8Size_eq.1,
      hmarks.utf8Size_eq.2, hclose]
    omega
  have hbody : byteSize (withoutStrings (((first :: (body ++ last :: '\x7d' :: behind)).drop 1).take
      body.length)) = byteSize body := by
    rw [byteSize_withoutStrings, List.drop_one, List.tail_cons, List.take_left]
  rw [htake, hsize, hopen] at hle
  simp only [Tag.IsBefore, Tag.stop, hbody]
  omega

/-- Tags are found in the order of their places, and no two of them overlap. -/
theorem pairwise_tagsFrom (passed offset : Nat) (cs : List Char) :
    (tagsFrom passed offset cs).Pairwise Tag.IsBefore := by
  induction cs generalizing passed offset with
  | nil => cases passed <;> exact .nil
  | cons c rest ih =>
    cases passed with
    | succ passed => exact ih _ _
    | zero =>
      rw [tagsFrom]
      split
      next hopening =>
        exact List.pairwise_cons.2 ⟨fun _ hlater => isBefore_of_opening? hopening hlater, ih _ _⟩
      next => exact ih _ _

/-- The tags of a template are found in the order of their places. -/
theorem pairwise_tagsOf (source : List Char) : (tagsOf source).Pairwise Tag.IsBefore :=
  pairwise_tagsFrom 0 0 (masked source)

/-- What is found in a tag comes before all that is found in later ones. -/
theorem Tag.IsBefore.lt {tag later : Tag} (hbefore : tag.IsBefore later)
    {found other : Located String} (hfound : tag.Holds found) (hother : later.Holds other) :
    found.offset < other.offset := by
  unfold Tag.IsBefore at hbefore
  unfold Tag.Holds at hfound hother
  omega

/-- The filters of a template are found in the order of their places, first
    within each tag and then from tag to tag. -/
theorem pairwise_scannedFilters (source : List Char) :
    (scannedFilters source).Pairwise (·.offset < ·.offset) := by
  refine List.pairwise_flatMap.2 ⟨fun tag _ => tag.pairwise_filters, ?_⟩
  refine (pairwise_tagsOf source).imp fun hbefore found hfound other hother => ?_
  exact hbefore.lt (Tag.holds_of_mem_names (List.mem_append_right _ hfound))
    (Tag.holds_of_mem_names (List.mem_append_right _ hother))

/-- The statements of a template are found in the order of their places. Each
    tag has one of them at most. -/
theorem pairwise_scannedStatements (source : List Char) :
    (scannedStatements source).Pairwise (·.offset < ·.offset) := by
  refine List.pairwise_filterMap.2 ((pairwise_tagsOf source).imp ?_)
  intro tag later hbefore found hfound other hother
  have hmem {tag : Tag} {found : Located String} (hfound : found ∈ tag.keyword?) :
      found ∈ tag.names :=
    List.mem_append_left _ (Option.mem_toList.2 hfound)
  exact hbefore.lt (Tag.holds_of_mem_names (hmem hfound)) (Tag.holds_of_mem_names (hmem hother))

end PromptPacks.Template
