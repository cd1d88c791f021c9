import PromptPacks.Proofs.Template.Agreement
import PromptPacks.Proofs.Template.Respelling
import PromptPacks.Template.Check

namespace PromptPacks.Template

open PromptPacks.Text

/-- The word for the end of a raw block. -/
def endWord : List Char :=
  ['e', 'n', 'd', 'r', 'a', 'w']

/-- The tag that starts a raw block. -/
def rawOpening : List Char :=
  ['\x7b', '%', ' ', 'r', 'a', 'w', ' ', '%', '\x7d']

/-- The tag that ends a raw block. -/
def rawClosing : List Char :=
  ['\x7b', '%', ' ', 'e', 'n', 'd', 'r', 'a', 'w', ' ', '%', '\x7d']

/-- What a tag with some word has before this word is the start of a tag. -/
theorem exists_of_afterTag? {word cs : List Char} (hafter : (afterTag? word cs).isSome = true) :
    ∃ lead behind, cs = lead ++ (word ++ behind) ∧ IsTagLead lead := by
  obtain ⟨rest, hrest⟩ := Option.isSome_iff_exists.1 hafter
  simp only [afterTag?, Option.bind_eq_bind, Option.bind_eq_some_iff] at hrest
  obtain ⟨inside, hinside, behind, hbehind, -⟩ := hrest
  obtain ⟨sign, happend, hsign⟩ := exists_sign inside
  refine ⟨_, behind, ?_, sign, (dropSign inside).takeWhile isBlank, rfl, hsign, ?_⟩
  · rw [← eq_append_of_after? hbehind, List.append_assoc, List.append_assoc,
      List.takeWhile_append_dropWhile, ← happend, ← eq_append_of_after? hinside]
  · exact List.all_eq_true.1 List.all_takeWhile

variable {body : List Char}

/-- No end of a raw block starts in a text without the word for it. The closing
    tag behind the text does not help, since it starts with a brace and so is no
    part of a tag that has started before. -/
theorem rawEndHere?_append_closing (hbody : body ≠ []) (hword : ¬endWord <:+: body) :
    rawEndHere? (body ++ rawClosing) = none := by
  unfold rawEndHere?
  split
  · next inner hcs =>
    split
    · next length sign htag =>
      have hsome := isSome_afterTag? (by decide) htag
      obtain ⟨lead, behind, happend, hlead⟩ := exists_of_afterTag? hsome
      rw [← hcs] at happend
      obtain ⟨more, rfl, -⟩ := exists_of_append_brace hbody hlead (by decide) happend
      exact absurd ⟨lead, more, List.append_assoc _ _ _⟩ hword
    · rfl
  · rfl

/-- The end of a raw block is found right behind a body without the word for
    it. -/
theorem rawEnd?_append_closing (hword : ¬endWord <:+: body) :
    rawEnd? (body ++ rawClosing) = some ⟨body.length, 12, some ' ', none⟩ := by
  induction body with
  | nil => rfl
  | cons c rest ih =>
    have hrest := ih fun hpart => hword (hpart.trans (List.suffix_cons c rest).isInfix)
    have hhere := rawEndHere?_append_closing (List.cons_ne_nil c rest) hword
    rw [List.cons_append] at hhere ⊢
    rw [rawEnd?, hhere, hrest]
    rfl

/-- The body of a raw block is the only token of the block, at the offset of
    nine bytes that the opening tag takes. -/
theorem tokensOf_raw (hword : ¬endWord <:+: body) :
    tokensOf (rawOpening ++ (body ++ rawClosing)) = ⟨[⟨.text body, 9⟩], none⟩ := by
  have htag : plainTag? "raw".toList (rawOpening.drop 2 ++ (body ++ rawClosing)) =
      some (7, none) := rfl
  have hopening : step .text '\x7b' (rawOpening.tail ++ (body ++ rawClosing)) =
      rawStep (rawOpening ++ (body ++ rawClosing)) 9 none := by
    have hcons : '\x7b' :: (rawOpening.tail ++ (body ++ rawClosing)) =
        '\x7b' :: '%' :: (rawOpening.drop 2 ++ (body ++ rawClosing)) := rfl
    have hlead : leadLength ('\x7b' :: '%' :: (rawOpening.drop 2 ++ (body ++ rawClosing))) = 0 :=
      rfl
    rw [step, hcons, textStep, if_pos hlead, openingStep, htag]
    rfl
  have hstep : step .text '\x7b' (rawOpening.tail ++ (body ++ rawClosing)) =
      .pass (some (9, .text body)) (body.length + 20) .text := by
    rw [hopening, rawStep, show 9 = rawOpening.length from rfl, List.drop_left,
      rawEnd?_append_closing hword]
    simp [removedLength, rawOpening]
    omega
  have hdrop : (rawOpening.tail ++ (body ++ rawClosing)).drop (body.length + 20) = [] :=
    List.drop_eq_nil_of_le (by simp [rawClosing, rawOpening])
  rw [tokensOf, show rawOpening = '\x7b' :: rawOpening.tail from rfl, List.cons_append,
    tokensFrom, hstep]
  simp only [hdrop, tokensFrom]
  congr

/-- A raw block is a template with one text. -/
theorem parse_raw (hword : ¬endWord <:+: body) :
    parse (rawOpening ++ (body ++ rawClosing)) = .ok [.text body] := by
  rw [parse, tokensOf_raw hword]
  rfl

/-- The spelling of further branches is changed in the body of a raw block as
    well. The tags around it are left as they are, and no tag reaches over one
    of them. -/
theorem respell_raw (body : List Char) :
    respell (rawOpening ++ (body ++ rawClosing)) = rawOpening ++ (respell body ++ rawClosing) := by
  have hbody : respell (body ++ rawClosing) = respell body ++ rawClosing := by
    rw [rawClosing, respell_append_brace]
    rfl
  rw [← hbody]
  rfl

/-- There is no e in the start of a tag, as there are no letters in it. -/
theorem IsTagLead.not_mem {lead : List Char} (hlead : IsTagLead lead) : 'e' ∉ lead := by
  obtain ⟨sign, space, rfl, hsign, hspace⟩ := hlead
  have hblank : 'e' ∉ space := fun hmem => by cases hspace _ hmem
  obtain rfl | rfl | rfl := hsign <;> simpa [tagOpening] using hblank

/-- A text that lacks the word for the end of a raw block lacks it in the usual
    spelling, too. The word can only start at an e, and the usual spelling of a
    tag has none that is not there before. -/
theorem infix_of_infix_respell {cs : List Char} (hword : endWord <:+: respell cs) :
    endWord <:+: cs := by
  induction cs using respell_induction with
  | nil => exact hword
  | keep c rest hnone ih =>
    have hsame : endWord <+: respell (c :: rest) ↔ endWord <+: c :: rest :=
      prefix_respell_iff (by decide)
    rw [respell_cons hnone] at hword hsame
    obtain hstarts | hlater := List.infix_cons_iff.1 hword
    · exact (hsame.1 hstarts).isInfix
    · exact (ih hlater).trans (List.suffix_cons c rest).isInfix
  | tag lead behind hlead hend ih =>
    rw [respell_of_lead hlead hend] at hword
    have husual : usualSpelling = ['e', 'l', 'i', 'f', ' '] := rfl
    have hpart := infix_of_append hlead.not_mem hword
    rw [husual] at hpart
    obtain hstarts | hlater := List.infix_cons_iff.1 hpart
    · simp at hstarts
    · have hothers : 'e' ∉ ['l', 'i', 'f', ' '] := by decide
      have hbehind := infix_of_append hothers hlater
      exact (ih hbehind).trans ⟨lead ++ longSpelling, [], by simp⟩

/-- A text comes out as it is in every context. -/
theorem output?_text (content : List Char) (context : Context) :
    output? [.text content] context = some content := by
  have hrun : output? [.text content] context = some (content ++ []) := rfl
  rw [hrun, List.append_nil]

/-- A raw block comes out as its body in the usual spelling. The word for its
    end may not occur, not even outside of a tag, which is more than the engine
    asks for. -/
theorem render_rawBlock {body : String} (hword : ¬"endraw".toList <:+: body.toList)
    (context : Context) :
    render ("\x7b% raw %\x7d" ++ body ++ "\x7b% endraw %\x7d") context =
      String.ofList (respell body.toList) := by
  have hsource : ("\x7b% raw %\x7d" ++ body ++ "\x7b% endraw %\x7d").toList =
      rawOpening ++ (body.toList ++ rawClosing) := by
    rw [String.toList_append, String.toList_append, List.append_assoc]
    rfl
  have hread : read ("\x7b% raw %\x7d" ++ body ++ "\x7b% endraw %\x7d") =
      .ok [.text (respell body.toList)] := by
    rw [read, hsource, respell_raw, parse_raw fun hpart => hword (infix_of_infix_respell hpart)]
  rw [render, hread]
  simp only [output?_text, Option.getD_some]

/-- A raw block comes out as its body in the usual spelling. This is the body
    itself exactly if no tag in it has the second spelling. -/
theorem render_raw {body : String} (hword : ¬"endraw".toList <:+: body.toList)
    (context : Context) :
    render ("\x7b% raw %\x7d" ++ body ++ "\x7b% endraw %\x7d") context =
        String.ofList (respell body.toList) ∧
      (render ("\x7b% raw %\x7d" ++ body ++ "\x7b% endraw %\x7d") context = body ↔
        ¬HasLongSpelling body.toList) := by
  refine ⟨render_rawBlock hword context, ?_⟩
  rw [render_rawBlock hword context, ← respell_eq_self_iff, ← String.toList_inj,
    String.toList_ofList]

/-- A body of all kinds of tags, with an open string. -/
def rawSample : String :=
  "\x7b\x7b genre \x7d\x7d \x7b# \x7b% raw %\x7d \x7b% elif \"elsif"

/-- A body without the second spelling comes out unchanged, whatever else is in
    it. -/
theorem render_raw_sample :
    ¬"endraw".toList <:+: rawSample.toList ∧
      render ("\x7b% raw %\x7d" ++ rawSample ++ "\x7b% endraw %\x7d") Dictionary.empty =
        rawSample := by
  have hword : ¬"endraw".toList <:+: rawSample.toList := by decide +kernel
  have hspelling : respell rawSample.toList = rawSample.toList := by decide +kernel
  exact ⟨hword, (render_raw hword Dictionary.empty).2.2 (respell_eq_self_iff.1 hspelling)⟩

/-- A body with a tag in the second spelling. -/
def respelledSample : String :=
  "\x7b% elsif x %\x7d"

/-- The spelling of a tag is changed though the tag is only text. -/
theorem render_raw_respelledSample :
    ¬"endraw".toList <:+: respelledSample.toList ∧
      render ("\x7b% raw %\x7d" ++ respelledSample ++ "\x7b% endraw %\x7d") Dictionary.empty =
        "\x7b% elif  x %\x7d" ∧
      respelledSample ≠ "\x7b% elif  x %\x7d" := by
  have hword : ¬"endraw".toList <:+: respelledSample.toList := by decide +kernel
  have hrespelled : respell respelledSample.toList = "\x7b% elif  x %\x7d".toList := by
    decide +kernel
  refine ⟨hword, ?_, by decide +kernel⟩
  rw [render_rawBlock hword, hrespelled, String.ofList_toList]

end PromptPacks.Template
