import PromptPacks.Proofs.Template.Respelling
import PromptPacks.Proofs.Text.Coordinates

namespace PromptPacks.Template

open PromptPacks.Text

/-- One text is another one in which some tags with the second spelling have got
    the usual one. -/
inductive Respells : List Char → List Char → Prop
  | refl (cs : List Char) : Respells cs cs
  | tag {lead behind changed : List Char} (before : List Char) (hlead : IsTagLead lead)
    (hend : EndsWord behind) (hmore : Respells behind changed) :
    Respells (before ++ (lead ++ (longSpelling ++ behind)))
      (before ++ (lead ++ (usualSpelling ++ changed)))

/-- A character before both texts changes nothing, since a tag that is respelled
    may have any text before it. -/
theorem Respells.cons {cs ds : List Char} (hchange : Respells cs ds) (c : Char) :
    Respells (c :: cs) (c :: ds) := by
  cases hchange with
  | refl => exact .refl _
  | tag before hlead hend hmore => exact .tag (c :: before) hlead hend hmore

/-- Nothing takes more or less room in the usual spelling than in the second
    one. The usual word is one letter shorter, for which it has a space behind
    it. -/
theorem Respells.sameRoom {cs ds : List Char} (hchange : Respells cs ds) :
    List.Forall₂ SameRoom cs ds := by
  have hsame (part : List Char) : List.Forall₂ SameRoom part part :=
    List.forall₂_same.2 fun c _ => .refl c
  induction hchange with
  | refl cs => exact hsame cs
  | @tag lead behind changed before _ _ _ ih =>
    have hword : List.Forall₂ SameRoom longSpelling usualSpelling := by
      simp [longSpelling, usualSpelling, SameRoom]
      decide
    exact List.rel_append (hsame before) (List.rel_append (hsame lead) (List.rel_append hword ih))

/-- The usual spelling only differs in tags with the second spelling, each of
    which has got the usual one. -/
theorem respells_respell (source : List Char) : Respells source (respell source) := by
  induction source using respell_induction with
  | nil => exact .refl []
  | keep c rest hnone ih =>
    rw [respell_cons hnone]
    exact ih.cons c
  | tag lead behind hlead hend ih =>
    rw [respell_of_lead hlead hend]
    exact .tag [] hlead hend ih

/-- Only an opening brace starts a tag to be respelled. -/
theorem respelled?_of_ne_brace {c : Char} (hc : c ≠ '\x7b') (rest : List Char) :
    respelled? (c :: rest) = none := by
  rw [Option.eq_none_iff_forall_ne_some]
  intro found hfound
  obtain ⟨lead, behind, happend, hlead, -⟩ := respelled?_eq_some_iff.1 hfound
  obtain ⟨tail, rfl, -⟩ := hlead.exists_cons
  exact hc (List.cons.inj happend).1

/-- Text without opening braces is passed as it is. No tag can start in it, not
    even one that ends in the text behind it. -/
theorem respell_append_of_not_mem {part : List Char} (hpart : '\x7b' ∉ part) (rest : List Char) :
    respell (part ++ rest) = part ++ respell rest := by
  induction part with
  | nil => rfl
  | cons c part ih =>
    obtain ⟨hc, hmore⟩ := not_or.1 (mt List.mem_cons.2 hpart)
    rw [List.cons_append, respell_cons (respelled?_of_ne_brace (Ne.symm hc) _), ih hmore,
      List.cons_append]

/-- A tag in the usual spelling is not respelled. -/
theorem respelled?_of_usual {lead : List Char} (hlead : IsTagLead lead) (rest : List Char) :
    respelled? (lead ++ (usualSpelling ++ rest)) = none := by
  obtain ⟨inside, hinside, hword⟩ :=
    hlead.exists_inside (d := 'e') (by decide) ('l' :: 'i' :: 'f' :: ' ' :: rest)
  have hafter : after? tagOpening (lead ++ (usualSpelling ++ rest)) = some inside := hinside
  have hnone : after? longSpelling ('e' :: 'l' :: 'i' :: 'f' :: ' ' :: rest) = none := rfl
  simp only [respelled?, Option.bind_eq_bind, hafter, Option.bind_some, hword, hnone,
    Option.bind_none]

/-- A tag in the usual spelling is passed as it is, and respelling goes on
    behind its first word. -/
theorem respell_of_usual {lead : List Char} (hlead : IsTagLead lead) (rest : List Char) :
    respell (lead ++ (usualSpelling ++ rest)) = lead ++ (usualSpelling ++ respell rest) := by
  have hnone := respelled?_of_usual hlead rest
  obtain ⟨tail, rfl, hbrace⟩ := hlead.exists_cons
  have hpart : '\x7b' ∉ tail ++ usualSpelling := by simpa [usualSpelling] using hbrace
  have hrest := respell_append_of_not_mem hpart rest
  rw [List.append_assoc, List.append_assoc] at hrest
  rw [List.cons_append] at hnone ⊢
  rw [respell_cons hnone, hrest, List.cons_append]

/-- A change in a text leaves its first character as it is. What comes behind a
    word therefore still ends it. -/
theorem head?_respell (cs : List Char) : (respell cs).head? = cs.head? := by
  cases cs with
  | nil => rfl
  | cons c rest =>
    cases hfound : respelled? (c :: rest) with
    | none => rw [respell_cons hfound, List.head?_cons, List.head?_cons]
    | some found =>
      obtain ⟨lead, behind, happend, hlead, hend, -⟩ := respelled?_eq_some_iff.1 hfound
      rw [happend, respell_of_lead hlead hend]
      obtain ⟨tail, rfl, -⟩ := hlead.exists_cons
      rfl

/-- A tag does not come to have the second spelling through a change behind it.
    The word of the second spelling has no brace in it, so it would have been
    there before. -/
theorem respelled?_cons_respell {c : Char} {rest : List Char}
    (hnone : respelled? (c :: rest) = none) : respelled? (c :: respell rest) = none := by
  rw [Option.eq_none_iff_forall_ne_some] at hnone ⊢
  intro found hfound
  obtain ⟨lead, behind, happend, hlead, hend, -⟩ := respelled?_eq_some_iff.1 hfound
  obtain ⟨tail, rfl, hbrace⟩ := hlead.exists_cons
  obtain ⟨rfl, hrest⟩ := List.cons.inj happend
  have hword : '\x7b' ∉ tail ++ longSpelling := by simpa [longSpelling] using hbrace
  have hstart : tail ++ longSpelling <+: respell rest :=
    ⟨behind, by rw [hrest, List.append_eq, List.append_assoc]⟩
  obtain ⟨original, rfl⟩ := (prefix_respell_iff hword).1 hstart
  have hbehind : respell original = behind := by
    rw [respell_append_of_not_mem hword, List.append_eq, ← List.append_assoc] at hrest
    exact List.append_cancel_left hrest
  refine hnone (('\x7b' :: tail) ++ usualSpelling)
    (respelled?_eq_some_iff.2 ⟨_, original, by simp, hlead, ?_, rfl⟩)
  rw [← hbehind, EndsWord, head?_respell] at hend
  exact hend

/-- A template that has been respelled stays as it is from then on. -/
theorem respell_respell (source : List Char) : respell (respell source) = respell source := by
  induction source using respell_induction with
  | nil => rfl
  | keep c rest hnone ih =>
    rw [respell_cons hnone, respell_cons (respelled?_cons_respell hnone), ih]
  | tag lead behind hlead hend ih =>
    rw [respell_of_lead hlead hend, respell_of_usual hlead, ih]

/-- No tag with the second spelling is left over. -/
theorem not_hasLongSpelling_respell (source : List Char) : ¬HasLongSpelling (respell source) :=
  respell_eq_self_iff.1 (respell_respell source)

/-- A text before a tag with the second spelling hides nothing of it. -/
theorem HasLongSpelling.append_left {cs : List Char} (hlong : HasLongSpelling cs)
    (before : List Char) : HasLongSpelling (before ++ cs) := by
  obtain ⟨start, lead, behind, rfl, hspelled⟩ := hlong
  exact ⟨before ++ start, lead, behind, (List.append_assoc _ _ _).symm, hspelled⟩

/-- A tag that starts behind a tag with the second spelling hides nothing of it,
    either. Of a text in general this is not true, since a letter could go on
    with the word. -/
theorem HasLongSpelling.append_brace {cs : List Char} (hlong : HasLongSpelling cs)
    (rest : List Char) : HasLongSpelling (cs ++ '\x7b' :: rest) := by
  obtain ⟨start, lead, behind, rfl, hlead, hend⟩ := hlong
  exact ⟨start, lead, behind ++ '\x7b' :: rest, by simp only [List.append_assoc], hlead,
    endsWord_append_brace.2 hend⟩

/-- There is only one way to respell a template until no second spelling is
    left. So it suffices for a result to have none of them. -/
theorem Respells.eq_respell {source result : List Char} (hchange : Respells source result)
    (hnone : ¬HasLongSpelling result) : result = respell source := by
  induction hchange with
  | refl cs => exact (respell_eq_self_iff.2 hnone).symm
  | @tag lead behind changed before hlead hend _ ih =>
    have hchanged : ¬HasLongSpelling changed := fun hlong => hnone <| by
      simpa only [List.append_assoc] using
        hlong.append_left (before ++ (lead ++ usualSpelling))
    have hspelled := respell_of_lead hlead hend
    rw [← ih hchanged] at hspelled
    obtain ⟨tail, rfl, -⟩ := hlead.exists_cons
    rw [List.cons_append] at hspelled hnone ⊢
    have hbefore : respell before = before :=
      respell_eq_self_iff.2 fun hlong => hnone (hlong.append_brace _)
    rw [List.cons_append, respell_append_brace, hbefore, hspelled, List.cons_append]

/-- A template in the usual spelling is the only text that differs from it in
    the spelling of some tags and has no tag with the second spelling. It takes
    as many bytes, all its places are those of the template, and it stays as it
    is. -/
theorem respell_keepsPlaces (source : List Char) :
    (∀ result, Respells source result ∧ ¬HasLongSpelling result ↔ result = respell source) ∧
      byteSize (respell source) = byteSize source ∧
      (∀ offset, placeAt (respell source) offset = placeAt source offset) ∧
      respell (respell source) = respell source := by
  have hroom := (respells_respell source).sameRoom
  refine ⟨fun result => ⟨?_, ?_⟩, (byteSize_eq_of_sameRoom hroom).symm,
    fun offset => (placeAt_eq_of_sameRoom hroom offset).symm, respell_respell source⟩
  · rintro ⟨hchange, hnone⟩
    exact hchange.eq_respell hnone
  · rintro rfl
    exact ⟨respells_respell source, not_hasLongSpelling_respell source⟩

end PromptPacks.Template
