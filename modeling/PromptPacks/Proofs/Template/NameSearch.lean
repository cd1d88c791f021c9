import PromptPacks.Proofs.Template.Wholeness

namespace PromptPacks.Template

open PromptPacks.Text

/-- A search looks at a text and then at later places of it, where `next` tells
    what it keeps of the character before. What it finds stands behind as many
    bytes as it counts. -/
theorem exists_of_search {search : Bool → List Char → Option Nat}
    {isHere : Bool → List Char → Bool} {next : Char → Bool}
    (hsearch : ∀ flag cs, search flag cs =
      if isHere flag cs then some 0
      else match cs with
        | [] => none
        | c :: rest => (search (next c) rest).map (· + c.utf8Size))
    {flag : Bool} {cs : List Char} {n : Nat} (hfound : search flag cs = some n) :
    ∃ before rest, cs = before ++ rest ∧ byteSize before = n ∧
      isHere ((before.getLast?.map next).getD flag) rest = true := by
  induction cs generalizing flag n with
  | nil =>
    rw [hsearch] at hfound
    split at hfound
    next hhere =>
      cases hfound
      exact ⟨[], [], rfl, rfl, hhere⟩
    next => cases hfound
  | cons c cs ih =>
    rw [hsearch] at hfound
    split at hfound
    next hhere =>
      cases hfound
      exact ⟨[], c :: cs, rfl, rfl, hhere⟩
    next =>
      obtain ⟨m, hm, rfl⟩ := Option.map_eq_some_iff.1 hfound
      obtain ⟨before, rest, rfl, rfl, hhere⟩ := ih hm
      refine ⟨c :: before, rest, rfl, by rw [byteSize_cons, Nat.add_comm], ?_⟩
      rw [List.getLast?_cons]
      cases hlast : before.getLast? with
      | none => simpa [hlast] using hhere
      | some d => simpa [hlast] using hhere

/-- Whether a name stands at the start of a text as a word of its own. -/
def isWordHere (name : List Char) (afterWord : Bool) (cs : List Char) : Bool :=
  afterWord != startsWord cs &&
    match after? name cs with
    | some behind => (name.getLast?.map isWordChar).getD afterWord != startsWord behind
    | none => false

/-- Whether a name stands at the start of a text, before an opening
    parenthesis. -/
def isCallHere (name : List Char) (isFree : Bool) (cs : List Char) : Bool :=
  isFree &&
    match after? name cs with
    | some behind => (behind.dropWhile isBlank).head? == some '('
    | none => false

/-- The search for a word as the general search for a place. Its state is
    whether a word character has come last. -/
theorem wordOffset?_eq_ite (name : List Char) (afterWord : Bool) (cs : List Char) :
    wordOffset? name afterWord cs =
      if isWordHere name afterWord cs then some 0
      else match cs with
        | [] => none
        | c :: rest => (wordOffset? name (isWordChar c) rest).map (· + c.utf8Size) := by
  cases cs <;> rw [wordOffset?] <;> rfl

/-- The search for a call as the general search for a place. Its state is
    whether a name may be free here, which it is not behind a point or a word
    character. -/
theorem callOffset?_eq_ite (name : List Char) (isFree : Bool) (cs : List Char) :
    callOffset? name isFree cs =
      if isCallHere name isFree cs then some 0
      else match cs with
        | [] => none
        | c :: rest =>
          (callOffset? name (c != '.' && !isWordChar c) rest).map (· + c.utf8Size) := by
  cases cs <;> rw [callOffset?] <;> rfl

/-- Where a word is found, it is spelled out, and neither end of it is inside of
    a longer word. -/
theorem exists_of_isWordHere {name cs : List Char} {afterWord : Bool}
    (hhere : isWordHere name afterWord cs = true) :
    ∃ behind, cs = name ++ behind ∧ afterWord ≠ startsWord cs ∧
      (name.getLast?.map isWordChar).getD afterWord ≠ startsWord behind := by
  rw [isWordHere, Bool.and_eq_true, bne_iff_ne] at hhere
  obtain ⟨hstart, hend⟩ := hhere
  split at hend
  next behind hafter =>
    exact ⟨behind, eq_append_of_after? hafter, hstart, bne_iff_ne.1 hend⟩
  next => cases hend

/-- Where a call is found, the name is free, is spelled out and has a
    parenthesis behind it, maybe after blanks. -/
theorem exists_of_isCallHere {name cs : List Char} {isFree : Bool}
    (hhere : isCallHere name isFree cs = true) :
    isFree = true ∧ ∃ behind, cs = name ++ behind ∧
      (behind.dropWhile isBlank).head? = some '(' := by
  rw [isCallHere, Bool.and_eq_true] at hhere
  obtain ⟨hfree, hcall⟩ := hhere
  split at hcall
  next behind hafter => exact ⟨hfree, behind, eq_append_of_after? hafter, eq_of_beq hcall⟩
  next => cases hcall

/-- At the edge of a word, no word goes on. The text before the edge may be
    empty; then the state of the search stands in for its last character. -/
theorem not_joins_of_ne {before behind : List Char} {start : Bool}
    (hedge : (before.getLast?.map isWordChar).getD start ≠ startsWord behind) :
    ¬Joins isWordChar before behind := by
  rintro ⟨c, hc, d, hd, hcword, hdword⟩
  rw [startsWord, Option.mem_def.1 hc, Option.mem_def.1 hd] at hedge
  exact hedge (hcword.trans hdword.symm)

/-- Whether two texts join depends on the first character of the second one
    alone. -/
theorem Joins.append_right {isPart : Char → Bool} {before behind : List Char}
    (hjoins : Joins isPart before behind) (more : List Char) :
    Joins isPart before (behind ++ more) := by
  obtain ⟨c, hc, d, hd, hparts⟩ := hjoins
  exact ⟨c, hc, d, by rw [Option.mem_def, List.head?_append, Option.mem_def.1 hd]; rfl, hparts⟩

/-- A word that is found in a text is not part of a longer one there, whatever
    comes before the text. -/
theorem standsWhole_of_wordOffset? {name cs : List Char} {afterWord : Bool} {n : Nat}
    (hoffset : wordOffset? name afterWord cs = some n) : StandsWhole isWordChar cs name n := by
  obtain ⟨before, rest, rfl, rfl, hhere⟩ := exists_of_search (wordOffset?_eq_ite name) hoffset
  obtain ⟨behind, rfl, hstart, hend⟩ := exists_of_isWordHere hhere
  refine ⟨before, behind, rfl, rfl, fun hjoins => ?_, not_joins_of_ne hend⟩
  exact not_joins_of_ne hstart (hjoins.append_right behind)

/-- A call that is found in a text is not the end of a longer name. It is not
    the start of one, as a parenthesis or a blank follows, and neither is a word
    character. -/
theorem standsWhole_of_callOffset? {name cs : List Char} {n : Nat}
    (hoffset : callOffset? name true cs = some n) : StandsWhole isWordChar cs name n := by
  obtain ⟨before, rest, rfl, rfl, hhere⟩ := exists_of_search (callOffset?_eq_ite name) hoffset
  obtain ⟨hfree, behind, rfl, hcall⟩ := exists_of_isCallHere hhere
  refine ⟨before, behind, rfl, rfl, ?_, ?_⟩
  · rintro ⟨c, hc, -, -, hword, -⟩
    rw [Option.mem_def.1 hc] at hfree
    simp [hword] at hfree
  · rintro ⟨-, -, d, hd, -, hword⟩
    obtain ⟨more, rfl⟩ := List.head?_eq_some_iff.1 hd
    rw [List.dropWhile_cons] at hcall
    split at hcall
    next hblank =>
      rw [isWordChar_eq_false hblank] at hword
      cases hword
    next =>
      cases hcall
      cases hword

/-- What is searched for in the tags of a template stands in the template, if it
    stands in one of the tags. -/
theorem standsWhole_of_findSome? {source name : List Char} {search : List Char → Option Nat}
    (hsearch : ∀ cs n, search cs = some n → StandsWhole isWordChar cs name n)
    (hsome : name ≠ []) (hspace : ' ' ∉ name) {offset : Nat}
    (hfound : (tagsOf source).findSome? (fun tag => (search tag.body).map (tag.offset + ·)) =
      some offset) : StandsWhole isWordChar source name offset := by
  obtain ⟨tag, htag, hfound⟩ := List.exists_of_findSome?_eq_some hfound
  obtain ⟨n, hn, rfl⟩ := Option.map_eq_some_iff.1 hfound
  exact (hsearch _ n hn).of_tag htag hsome hspace fun _ => id

/-- What is reported as the place of a variable has the whole variable there.
    Blanked text cannot match a name that has no spaces in it. -/
theorem standsWhole_of_referenceOffset? {source : List Char} {name : String}
    (hsome : name.toList ≠ []) (hspace : ' ' ∉ name.toList) {offset : Nat}
    (hoffset : referenceOffset? source name = some offset) :
    StandsWhole isWordChar source name.toList offset :=
  standsWhole_of_findSome? (fun _ _ => standsWhole_of_wordOffset?) hsome hspace hoffset

/-- What is reported as the place of a call has the whole name there. -/
theorem standsWhole_of_callPlace? {source : List Char} {name : String}
    (hsome : name.toList ≠ []) (hspace : ' ' ∉ name.toList) {offset : Nat}
    (hoffset : callPlace? source name = some offset) :
    StandsWhole isWordChar source name.toList offset :=
  standsWhole_of_findSome? (fun _ _ => standsWhole_of_callOffset?) hsome hspace hoffset

end PromptPacks.Template
