import PromptPacks.Proofs.Template.Features
import PromptPacks.Proofs.Template.Reading

namespace PromptPacks.Template

/-- Of all features, some have been read and the tokens that are left show the
    others. -/
def Tally (whole read : List Feature) (words : List Token) : Prop :=
  whole = read ++ shownIn words

/-- The same where the tokens begin with the name of a filter. -/
def FilterTally (whole read : List Feature) (words : List Token) : Prop :=
  Tally whole (read ++ filterShown words) words

/-- Whether a token may show something. -/
def Token.marks : Token → Bool
  | .symbol .pipe | .tagStart => true
  | _ => false

variable {whole read : List Feature} {words : List Token}

/-- A token that marks nothing shows nothing. -/
theorem shownIn_cons {token : Token} (hmarks : token.marks = false) :
    shownIn (token :: words) = shownIn words := by
  rw [shownIn]
  cases token with
  | tagStart => cases hmarks
  | symbol sign =>
    cases sign with
    | pipe => cases hmarks
    | _ => rfl
  | _ => rfl

/-- A token that marks nothing is passed without a change. -/
theorem Tally.skip {token : Token} (hmarks : token.marks = false)
    (htally : Tally whole read (token :: words)) : Tally whole read words := by
  rwa [Tally, shownIn_cons hmarks] at htally

/-- Behind a bar the name of a filter comes next. -/
theorem Tally.of_pipe (htally : Tally whole read (.symbol .pipe :: words)) :
    FilterTally whole read words := by
  rw [Tally, shownIn, shownAt, ← List.append_assoc] at htally
  exact htally

/-- Behind the word for a filter block the name of a filter comes next, and the
    word counts itself. -/
theorem Tally.of_filter (htally : Tally whole read (.tagStart :: .name "filter" :: words)) :
    FilterTally whole (read ++ [.statement "filter"]) words := by
  rw [Tally, shownIn, shownAt, shownIn_cons rfl, tagShown, if_pos rfl] at htally
  rw [FilterTally, Tally, htally]
  simp

/-- A word that starts a statement counts as this statement. -/
theorem Tally.of_opening {word : String} (hword : word ∈ openingWords)
    (htally : Tally whole read (.tagStart :: .name word :: words)) :
    Tally whole (read ++ [.statement word]) words := by
  have hshown : tagShown word words = [.statement word] := by
    revert word
    simp +decide [openingWords, tagShown]
  rw [Tally, shownIn, shownAt, shownIn_cons rfl, hshown, ← List.append_assoc] at htally
  exact htally

/-- The word for a further branch counts as a condition, as it becomes one. -/
theorem Tally.of_elif (htally : Tally whole read (.tagStart :: .name "elif" :: words)) :
    Tally whole (read ++ [.statement "if"]) words := by
  rw [Tally, shownIn, shownAt, shownIn_cons rfl, tagShown, if_neg (by decide), if_pos rfl,
    ← List.append_assoc] at htally
  exact htally

/-- The words that end a body, except the one for a further branch. -/
def closingWords : List String :=
  ["else", "endif", "endfor", "endset", "endfilter", "endwith", "endautoescape", "endblock",
    "endmacro", "endcall"]

/-- A word that ends a body counts as nothing. -/
theorem Tally.of_closing {word : String} (hword : word ∈ closingWords)
    (htally : Tally whole read (.tagStart :: .name word :: words)) : Tally whole read words := by
  have hshown : tagShown word words = [] := by
    revert word
    simp +decide [closingWords, tagShown, openingWords]
  rwa [Tally, shownIn, shownAt, shownIn_cons rfl, hshown, List.nil_append] at htally

namespace Parser

variable {α β : Type} {after : β → List Token → Prop}

/-- A reader that uses exactly what the tokens show that it passes. -/
def Shows (parser : Parser α) (features : α → List Feature) : Prop :=
  ∀ whole read, Reads (Tally whole read) parser fun answer => Tally whole (read ++ features answer)

/-- A reader that passes only tokens that show nothing. -/
def Silent (parser : Parser α) : Prop :=
  ∀ whole read, Reads (Tally whole read) parser fun _ => Tally whole read

/-- An answer that has what has been read may be given. -/
theorem tally_pure {answer : β} {features : β → List Feature} (hread : features answer = read) :
    Reads (Tally whole read) (pure answer) fun answer => Tally whole (features answer) :=
  reads_pure fun _ htally => hread ▸ htally

/-- What the first reader uses has been read when the second one starts. -/
theorem Shows.bind {features : α → List Feature} {first : Parser α} {second : α → Parser β}
    (hfirst : Shows first features)
    (hsecond : ∀ answer, Reads (Tally whole (read ++ features answer)) (second answer) after) :
    Reads (Tally whole read) (first >>= second) after :=
  reads_bind (hfirst whole read) hsecond

/-- A reader that uses nothing may come before any other. -/
theorem Silent.bind {first : Parser α} {second : α → Parser β} (hfirst : Silent first)
    (hsecond : ∀ answer, Reads (Tally whole read) (second answer) after) :
    Reads (Tally whole read) (first >>= second) after :=
  reads_bind (hfirst whole read) hsecond

/-- Nothing has to be shown of a reader that stops at a fault. -/
theorem Shows.of_fail {fault : ParseFault} {features : α → List Feature} :
    Shows (fail fault) features :=
  fun _ _ => reads_fail

/-- A token that has to be there and marks nothing is passed. -/
theorem tally_expect_bind {token : Token} (hmarks : token.marks = false)
    {second : Unit → Parser β} (hsecond : Reads (Tally whole read) (second ()) after) :
    Reads (Tally whole read) (expect token >>= second) after :=
  reads_expect_bind (hsecond.weaken fun _ => Tally.skip hmarks)

/-- A word that has to be there is passed. Words behind the first one of a tag
    mark nothing. -/
theorem tally_expectWord_bind {word : String} {second : Unit → Parser β}
    (hsecond : Reads (Tally whole read) (second ()) after) :
    Reads (Tally whole read) (expectWord word >>= second) after :=
  reads_expectWord_bind (hsecond.weaken fun _ => Tally.skip rfl)

/-- A name that has to be there is passed, as it marks nothing by itself. -/
theorem tally_expectName_bind {second : String → Parser β}
    (hsecond : ∀ word, Reads (Tally whole read) (second word) after) :
    Reads (Tally whole read) (expectName >>= second) after :=
  reads_expectName_bind fun word => (hsecond word).weaken fun _ => Tally.skip rfl

/-- A token that marks nothing may be there or not. -/
theorem tally_skip_ite {token : Token} (hmarks : token.marks = false) {yes no : Parser β}
    (hyes : Reads (Tally whole read) yes after) (hno : Reads (Tally whole read) no after) :
    Reads (Tally whole read) (skip token >>= fun found => if found = true then yes else no) after :=
  reads_skip_ite (hyes.weaken fun _ => Tally.skip hmarks) (hno.weaken fun _ => And.left)

/-- A look at the next token changes nothing. -/
theorem tally_isNext_ite {token : Token} {yes no : Parser β}
    (hyes : Reads (Tally whole read) yes after) (hno : Reads (Tally whole read) no after) :
    Reads (Tally whole read) (isNext token >>= fun found => if found = true then yes else no)
      after :=
  reads_isNext_ite (hyes.weaken fun _ => And.left) (hno.weaken fun _ => And.left)

/-- The token that has been looked at is passed. -/
theorem tally_next_bind {token : Token} (hmarks : token.marks = false)
    {second : Option Token → Parser β}
    (hsecond : Reads (Tally whole read) (second (some token)) after) :
    Reads (fun words => Tally whole read words ∧ words.head? = some token) (next >>= second)
      after :=
  reads_head_next_bind (hsecond.weaken fun _ => Tally.skip hmarks)

/-- Passing a token that marks nothing uses nothing, whether it is there or
    not. -/
theorem silent_skip {token : Token} (hmarks : token.marks = false) : Silent (skip token) := by
  refine fun whole read => (reads_skip token).imp fun found words htally => ?_
  cases found with
  | true => exact htally.skip hmarks
  | false => exact htally.1

/-- Passing several tokens that mark nothing uses nothing. -/
theorem silent_countSkipped {token : Token} (hmarks : token.marks = false) :
    Silent (countSkipped token) := by
  intro whole read
  refine reads_loop (fun _ => Tally whole read) (fun n => ?_) 0
  exact tally_skip_ite hmarks (reads_pure fun _ => id) (reads_pure fun _ => id)

/-- A token may have to be there under some condition. -/
theorem tally_expect_ite {token : Token} (hmarks : token.marks = false) {condition : Prop}
    [Decidable condition] {second : Unit → Parser β}
    (hsecond : Reads (Tally whole read) (second ()) after) :
    Reads (Tally whole read) (if condition then expect token >>= second else second ()) after :=
  reads_ite (fun _ => tally_expect_bind hmarks hsecond) fun _ => hsecond

/-- Two ways to read something are followed by the same. What follows is shown
    once for both. -/
theorem tally_skip_join {token : Token} (hmarks : token.marks = false) {yes : Parser β}
    {no : Parser α} (hno : Silent no) {second : α → Parser β}
    (hsecond : ∀ answer, Reads (Tally whole read) (second answer) after)
    (hyes : (∀ answer, Reads (Tally whole read) (second answer) after) →
      Reads (Tally whole read) yes after) :
    Reads (Tally whole read) (skip token >>= fun found =>
      if found = true then yes else no >>= second) after :=
  tally_skip_ite hmarks (hyes hsecond) (hno.bind hsecond)

/-- Reading nothing uses nothing. -/
theorem Silent.pure {answer : α} : Silent (pure answer) :=
  fun _ _ => reads_pure fun _ => id

/-- A change of the answer alone uses nothing. -/
theorem Silent.map {parser : Parser α} (hparser : Silent parser) (f : α → β) :
    Silent (f <$> parser) :=
  fun whole read => reads_map (hparser whole read) fun _ _ => id

/-- A part that is there uses what it shows. -/
theorem Shows.some {value : Parser Expr} (hvalue : Shows value Expr.features) :
    Shows (Option.some <$> value) featuresOfOption :=
  fun whole read => reads_map (hvalue whole read) fun _ _ => id

/-- A part that is only there after a token of its own. Without it nothing is
    used. -/
theorem tally_default_bind {token : Token} (hmarks : token.marks = false) {part : Parser α}
    {features : α → List Feature} (hpart : Shows part features) {absent : α}
    (habsent : features absent = []) {second : α → Parser β}
    (hsecond : ∀ found, Reads (Tally whole (read ++ features found)) (second found) after) :
    Reads (Tally whole read) (skip token >>= fun found =>
      if found = true then part >>= second else Pure.pure absent >>= second) after := by
  refine tally_skip_ite hmarks (hpart.bind hsecond) (reads_pure_bind ?_)
  have hnone := hsecond absent
  rwa [habsent, List.append_nil] at hnone

/-- What the items between commas show is put together. The commas and brackets
    show nothing. -/
theorem shows_commaSeparated {features : α → List Feature} {closing : Symbol}
    (hclosing : (Token.symbol closing).marks = false) {item : List α → Parser α}
    (hitem : ∀ items, Shows (item items) features) :
    Shows (commaSeparated closing item) (List.flatMap features) := by
  intro whole read
  have hloop : Reads (Tally whole (read ++ [].flatMap features)) (commaSeparated closing item)
      fun items => Tally whole (read ++ items.flatMap features) := by
    refine reads_commaSeparated
      (fun items => Tally whole (read ++ items.reverse.flatMap features)) ?_ ?_ fun items => ?_
    · exact fun items words => Tally.skip hclosing
    · exact fun items words => Tally.skip rfl
    · refine (hitem items whole _).imp fun found words htally => ?_
      simpa using htally
  simpa using hloop

end Parser

end PromptPacks.Template
