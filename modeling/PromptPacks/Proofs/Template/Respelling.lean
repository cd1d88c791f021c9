import PromptPacks.Proofs.Text.Word
import PromptPacks.Template.Spelling

namespace PromptPacks.Template

open PromptPacks.Text

/-- The start of a tag up to its first word: the opening, perhaps a sign, and
    white space. -/
def IsTagLead (lead : List Char) : Prop :=
  ∃ sign space, lead = tagOpening ++ (sign ++ space) ∧ (sign = [] ∨ sign = ['-'] ∨ sign = ['+']) ∧
    ∀ c ∈ space, isBlank c = true

/-- A word that stands before this text ends there. -/
def EndsWord (behind : List Char) : Prop :=
  (behind.head?.map isWordChar).getD false = false

/-- Somewhere in a text stands a tag whose first word is the one for a further
    branch in its second spelling. -/
def HasLongSpelling (cs : List Char) : Prop :=
  ∃ before lead behind, cs = before ++ (lead ++ (longSpelling ++ behind)) ∧ IsTagLead lead ∧
    EndsWord behind

/-- A word is not found among characters other than its first one, so it stands
    behind them as a whole. -/
theorem infix_of_append {d : Char} {word before rest : List Char} (hbefore : d ∉ before)
    (hpart : d :: word <:+: before ++ rest) : d :: word <:+: rest := by
  induction before with
  | nil => exact hpart
  | cons c before ih =>
    obtain hstarts | hlater := List.infix_cons_iff.1 hpart
    · obtain ⟨rfl, -⟩ := List.cons_prefix_cons.1 hstarts
      exact absurd List.mem_cons_self hbefore
    · exact ih (fun hmem => hbefore (List.mem_cons_of_mem c hmem)) hlater

/-- What is dropped at the start of a tag is a sign or nothing. -/
theorem exists_sign (cs : List Char) : ∃ sign, cs = sign ++ dropSign cs ∧
    (sign = [] ∨ sign = ['-'] ∨ sign = ['+']) := by
  cases cs with
  | nil => exact ⟨[], rfl, .inl rfl⟩
  | cons c rest =>
    rw [dropSign]
    split
    · next hsign =>
      simp only [Bool.or_eq_true, beq_iff_eq] at hsign
      exact ⟨[c], rfl, .inr (by simpa using hsign)⟩
    · exact ⟨[], rfl, .inl rfl⟩

/-- One sign is dropped, and only one. -/
theorem dropSign_sign {sign cs : List Char} (hsign : sign = [] ∨ sign = ['-'] ∨ sign = ['+'])
    (hself : dropSign cs = cs) : dropSign (sign ++ cs) = cs := by
  obtain rfl | rfl | rfl := hsign
  · exact hself
  · rfl
  · rfl

/-- What comes before a rest is what is left when the length of the rest is
    taken off. -/
theorem take_length_sub (lead rest : List Char) :
    (lead ++ rest).take ((lead ++ rest).length - rest.length) = lead := by
  simp

/-- The first word of a tag is found behind its start. It must not start with a
    sign or a blank, or the start would be longer. -/
theorem IsTagLead.exists_inside {lead : List Char} (hlead : IsTagLead lead) {d : Char}
    (hd : d ≠ '-' ∧ d ≠ '+' ∧ isBlank d = false) (rest : List Char) :
    ∃ inside, after? tagOpening (lead ++ d :: rest) = some inside ∧
      (dropSign inside).dropWhile isBlank = d :: rest := by
  obtain ⟨sign, space, rfl, hsign, hspace⟩ := hlead
  obtain ⟨hminus, hplus, hblank⟩ := hd
  have hself : dropSign (space ++ d :: rest) = space ++ d :: rest := by
    cases space with
    | nil => simp [dropSign, hminus, hplus]
    | cons c space =>
      have hfirst := hspace c List.mem_cons_self
      rw [List.cons_append, dropSign, if_neg]
      simp only [Bool.or_eq_true, beq_iff_eq]
      rintro (rfl | rfl) <;> cases hfirst
  refine ⟨sign ++ (space ++ d :: rest), ?_, ?_⟩
  · rw [List.append_assoc, after?_append, List.append_assoc]
  · rw [dropSign_sign hsign hself, List.dropWhile_append_of_pos hspace,
      List.dropWhile_cons_of_neg (by simp [hblank])]

/-- A tag is respelled exactly if its first word is the second spelling of a
    further branch and ends there. Its start is kept as it is. -/
theorem respelled?_eq_some_iff {cs found : List Char} :
    respelled? cs = some found ↔ ∃ lead behind, cs = lead ++ (longSpelling ++ behind) ∧
      IsTagLead lead ∧ EndsWord behind ∧ found = lead ++ usualSpelling := by
  constructor
  · intro hfound
    simp only [respelled?, Option.bind_eq_bind, Option.bind_eq_some_iff] at hfound
    obtain ⟨inside, hinside, behind, hbehind, hword⟩ := hfound
    have hcs := eq_append_of_after? hinside
    have hsplit := eq_append_of_after? hbehind
    obtain ⟨sign, happend, hsign⟩ := exists_sign inside
    have hlead : cs = tagOpening ++ (sign ++ (dropSign inside).takeWhile isBlank) ++
        (longSpelling ++ behind) := by
      rw [← hsplit, List.append_assoc, List.append_assoc, List.takeWhile_append_dropWhile,
        ← happend, hcs]
    refine ⟨_, behind, hlead, ⟨sign, _, rfl, hsign, ?_⟩, ?_⟩
    · exact List.all_eq_true.1 List.all_takeWhile
    · split at hword
      · cases hword
      · next hend =>
        refine ⟨by simpa [EndsWord] using hend, ?_⟩
        rw [← Option.some.inj hword, hsplit, hlead, take_length_sub]
  · rintro ⟨lead, behind, rfl, hlead, hend, rfl⟩
    obtain ⟨inside, hinside, hword⟩ :=
      hlead.exists_inside (d := 'e') (by decide) ('l' :: 's' :: 'i' :: 'f' :: behind)
    have hafter : after? tagOpening (lead ++ (longSpelling ++ behind)) = some inside := hinside
    have hfirst : (dropSign inside).dropWhile isBlank = longSpelling ++ behind := hword
    simp only [respelled?, Option.bind_eq_bind, hafter, Option.bind_some, hfirst, after?_append]
    rw [if_neg (by simpa [EndsWord] using hend), take_length_sub]

/-- The only opening brace in the start of a tag is its first character. -/
theorem IsTagLead.exists_cons {lead : List Char} (hlead : IsTagLead lead) :
    ∃ rest, lead = '\x7b' :: rest ∧ '\x7b' ∉ rest := by
  obtain ⟨sign, space, rfl, hsign, hspace⟩ := hlead
  refine ⟨'%' :: (sign ++ space), rfl, ?_⟩
  have hblank : '\x7b' ∉ space := fun hmem => by cases hspace _ hmem
  obtain rfl | rfl | rfl := hsign <;> simpa using hblank

/-- A further opening brace stands behind the first word of a tag. So whether a
    text starts with a tag can be told from the text before that brace. -/
theorem exists_of_append_brace {cs rest lead word behind : List Char} (hcs : cs ≠ [])
    (hlead : IsTagLead lead) (hword : '\x7b' ∉ word)
    (happend : cs ++ '\x7b' :: rest = lead ++ (word ++ behind)) :
    ∃ more, cs = lead ++ (word ++ more) ∧ behind = more ++ '\x7b' :: rest := by
  obtain ⟨tail, rfl, hbrace⟩ := hlead.exists_cons
  obtain ⟨c, cs, rfl⟩ := List.exists_cons_of_ne_nil hcs
  obtain ⟨rfl, htail⟩ := List.cons.inj happend
  rw [List.append_eq, List.append_eq, ← List.append_assoc] at htail
  obtain ⟨more, hword, hrest⟩ | ⟨more, rfl, rfl⟩ := List.append_eq_append_iff.1 htail
  · cases more with
    | nil =>
      rw [List.append_nil] at hword
      exact ⟨[], by rw [List.append_nil, List.cons_append, hword], hrest.symm⟩
    | cons d more =>
      obtain ⟨rfl, -⟩ := List.cons.inj hrest
      have hmem : '\x7b' ∈ tail ++ word := by rw [hword]; simp
      exact absurd ((List.mem_append.1 hmem).resolve_left hbrace) ‹_›
  · exact ⟨more, by rw [List.cons_append, List.append_assoc], rfl⟩

/-- A brace ends a word as the end of the text does. -/
theorem endsWord_append_brace {behind rest : List Char} :
    EndsWord (behind ++ '\x7b' :: rest) ↔ EndsWord behind := by
  cases behind with
  | nil => exact iff_of_true rfl rfl
  | cons c behind => exact Iff.rfl

/-- Whether a tag is respelled does not depend on what comes from the next
    opening brace on. -/
theorem respelled?_append_brace {cs : List Char} (hcs : cs ≠ []) (rest : List Char) :
    respelled? (cs ++ '\x7b' :: rest) = respelled? cs := by
  refine Option.ext fun found => ?_
  rw [respelled?_eq_some_iff, respelled?_eq_some_iff]
  constructor
  · rintro ⟨lead, behind, happend, hlead, hend, rfl⟩
    obtain ⟨more, rfl, rfl⟩ := exists_of_append_brace hcs hlead (by decide) happend
    exact ⟨lead, more, rfl, hlead, endsWord_append_brace.1 hend, rfl⟩
  · rintro ⟨lead, behind, rfl, hlead, hend, rfl⟩
    exact ⟨lead, behind ++ '\x7b' :: rest, by simp only [List.append_assoc], hlead,
      endsWord_append_brace.2 hend, rfl⟩

/-- A replacement that has been started is written in full, over as many
    characters as it has. -/
theorem respellFrom_pending {replacement old : List Char}
    (hlength : replacement.length = old.length) (rest : List Char) :
    respellFrom replacement (old ++ rest) = replacement ++ respell rest := by
  induction old generalizing replacement with
  | nil =>
    obtain rfl := List.eq_nil_of_length_eq_zero hlength
    rfl
  | cons c old ih =>
    cases replacement with
    | nil => cases hlength
    | cons d replacement =>
      rw [List.cons_append, respellFrom, ih (Nat.succ.inj hlength), List.cons_append]

/-- A character at which no tag is to be respelled is kept. -/
theorem respell_cons {c : Char} {rest : List Char} (hnone : respelled? (c :: rest) = none) :
    respell (c :: rest) = c :: respell rest := by
  rw [respell, respellFrom, hnone]
  rfl

/-- A tag with the second spelling gets the usual one, and respelling goes on
    right behind the word. -/
theorem respell_of_lead {lead behind : List Char} (hlead : IsTagLead lead)
    (hend : EndsWord behind) :
    respell (lead ++ (longSpelling ++ behind)) = lead ++ (usualSpelling ++ respell behind) := by
  have hfound := respelled?_eq_some_iff.2 ⟨lead, behind, rfl, hlead, hend, rfl⟩
  obtain ⟨tail, rfl, -⟩ := hlead.exists_cons
  rw [List.cons_append] at hfound
  rw [List.cons_append, respell, respellFrom, hfound]
  simp only [List.cons_append]
  rw [← List.append_assoc, respellFrom_pending (by simp [longSpelling, usualSpelling]),
    List.append_assoc]

/-- A text is respelled from its start on: the first character is kept, or the
    text starts with a tag of the second spelling, behind which it goes on. -/
theorem respell_induction {motive : List Char → Prop} (nil : motive [])
    (keep : ∀ c rest, respelled? (c :: rest) = none → motive rest → motive (c :: rest))
    (tag : ∀ lead behind, IsTagLead lead → EndsWord behind → motive behind →
      motive (lead ++ (longSpelling ++ behind)))
    (cs : List Char) : motive cs := by
  induction hlength : cs.length using Nat.strongRecOn generalizing cs with
  | ind n ih =>
  subst hlength
  cases cs with
  | nil => exact nil
  | cons c rest =>
    cases hfound : respelled? (c :: rest) with
    | none => exact keep c rest hfound (ih rest.length (Nat.lt_succ_self _) rest rfl)
    | some found =>
      obtain ⟨lead, behind, happend, hlead, hend, -⟩ := respelled?_eq_some_iff.1 hfound
      have hlt : behind.length < (c :: rest).length := by
        rw [happend, List.length_append, List.length_append]
        simp [longSpelling]
        omega
      rw [happend]
      exact tag lead behind hlead hend (ih _ hlt behind rfl)

/-- A text can be cut at any opening brace, and its parts respelled on their
    own. -/
theorem respell_append_brace (cs rest : List Char) :
    respell (cs ++ '\x7b' :: rest) = respell cs ++ respell ('\x7b' :: rest) := by
  induction cs using respell_induction with
  | nil => rfl
  | keep c tail hnone ih =>
    have happend := respelled?_append_brace (List.cons_ne_nil c tail) rest
    rw [hnone, List.cons_append] at happend
    rw [List.cons_append, respell_cons happend, respell_cons hnone, ih, List.cons_append]
  | tag lead behind hlead hend ih =>
    rw [List.append_assoc, List.append_assoc,
      respell_of_lead hlead (endsWord_append_brace.2 hend), respell_of_lead hlead hend, ih]
    simp only [List.append_assoc]

/-- A word without braces starts the respelled text exactly if it starts the
    text. A tag that is respelled starts with a brace. -/
theorem prefix_respell_iff {word cs : List Char} (hbrace : '\x7b' ∉ word) :
    word <+: respell cs ↔ word <+: cs := by
  induction word generalizing cs with
  | nil => exact iff_of_true List.nil_prefix List.nil_prefix
  | cons d word ih =>
    cases cs with
    | nil => exact Iff.rfl
    | cons c rest =>
      cases hfound : respelled? (c :: rest) with
      | none =>
        have hrest : '\x7b' ∉ word := fun hmem => hbrace (List.mem_cons_of_mem d hmem)
        rw [respell_cons hfound, List.cons_prefix_cons, List.cons_prefix_cons, ih hrest]
      | some found =>
        obtain ⟨lead, behind, happend, hlead, hend, -⟩ := respelled?_eq_some_iff.1 hfound
        obtain ⟨tail, rfl, -⟩ := hlead.exists_cons
        have hd : d ≠ '\x7b' := fun heq => hbrace (heq ▸ List.mem_cons_self)
        rw [happend, respell_of_lead hlead hend]
        simp only [List.cons_append, List.cons_prefix_cons, hd, false_and]

/-- A text is kept as it is exactly if no tag in it has the second spelling.
    Each change is visible, as the two spellings differ. -/
theorem respell_eq_self_iff {cs : List Char} : respell cs = cs ↔ ¬HasLongSpelling cs := by
  induction cs with
  | nil =>
    refine iff_of_true rfl ?_
    rintro ⟨before, lead, behind, hnil, -⟩
    simp [longSpelling] at hnil
  | cons c rest ih =>
    cases hfound : respelled? (c :: rest) with
    | some found =>
      obtain ⟨lead, behind, happend, hlead, hend, -⟩ := respelled?_eq_some_iff.1 hfound
      refine iff_of_false ?_ (not_not_intro ⟨[], lead, behind, happend, hlead, hend⟩)
      rw [happend, respell_of_lead hlead hend, List.append_cancel_left_eq]
      simp [longSpelling, usualSpelling]
    | none =>
      rw [respell_cons hfound, List.cons.injEq, and_iff_right rfl, ih]
      refine not_congr ⟨?_, ?_⟩
      · rintro ⟨before, lead, behind, rfl, hspelled⟩
        exact ⟨c :: before, lead, behind, rfl, hspelled⟩
      · rintro ⟨before, lead, behind, happend, hlead, hend⟩
        cases before with
        | nil =>
          rw [respelled?_eq_some_iff.2 ⟨lead, behind, happend, hlead, hend, rfl⟩] at hfound
          cases hfound
        | cons d before => exact ⟨before, lead, behind, (List.cons.inj happend).2, hlead, hend⟩

end PromptPacks.Template
