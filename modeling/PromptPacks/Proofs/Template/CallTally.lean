import PromptPacks.Proofs.Template.Calls
import PromptPacks.Proofs.Template.Reading

namespace PromptPacks.Template

open PromptPacks.Template.Parser

/-- A name is called in all exactly if it is among the calls that have been
    read, or the tokens that are left show a call. `isFree` tells whether no
    point comes before them. -/
structure CallTally (name : String) (isFree : Bool) (whole : Prop) (read : List String)
    (words : List Token) : Prop where
  whole_iff : whole ↔ name ∈ read ∨ ShowsCall name isFree words
  clear : IsClear name words
  supported : AreSupported words

/-- The same after an expression. If this is the name itself, parentheses around
    it are not called. -/
structure ExprTally (name : String) (whole : Prop) (read : List String) (value : Expr)
    (words : List Token) : Prop extends CallTally name true whole (read ++ value.calls) words where
  settled : value.signedName? = some name → closesCallee words = false

/-- The same after an expression that may be called yet. -/
structure OpenTally (name : String) (whole : Prop) (read : List String) (value : Expr)
    (words : List Token) : Prop where
  whole_iff : whole ↔ name ∈ read ++ value.calls ∨
    (value.signedName? = some name ∧ words.head? = some (.symbol .parenOpen)) ∨
      ShowsCall name true words
  clear : IsClear name words
  supported : AreSupported words
  settled : value.signedName? = some name → closesCallee words = false

/-- A token that neither is a point nor the given name. -/
structure Token.IsIdle (name : String) (token : Token) : Prop where
  ne_dot : token ≠ .symbol .dot
  ne_name : token ≠ .name name

/-- A token that is neither a point nor any name. -/
def Token.isMute : Token → Bool
  | .name _ | .symbol .dot => false
  | _ => true

variable {name word : String} {isFree : Bool} {whole : Prop} {read : List String} {value : Expr}
  {token : Token} {words : List Token}

/-- A token that shows nothing starts no call of the name. -/
theorem Token.IsIdle.of_isMute (hmute : token.isMute = true) : token.IsIdle name := by
  constructor <;> rintro rfl <;> cases hmute

/-- A word of the language is no name that could be called. -/
theorem Token.IsIdle.of_word (hname : name ∉ languageWords) (hword : word ∈ languageWords) :
    (Token.name word).IsIdle name := by
  refine ⟨nofun, ?_⟩
  rintro ⟨⟩
  exact hname hword

/-- Only a point takes the freedom of what stands behind it. -/
theorem Token.frees_true (hdot : token ≠ .symbol .dot) : token.frees true = true := by
  rw [Token.frees]
  split
  · simpa using hdot
  · rfl

namespace CallTally

/-- One token less to read, where the name is not called by it. -/
theorem tail (htally : CallTally name isFree whole read (token :: words))
    (hcalled : isFree = true → ¬IsCalled name (token :: words)) :
    CallTally name (token.frees isFree) whole read words where
  whole_iff := by
    have hhere : ¬(isFree = true ∧ IsCalled name (token :: words)) := fun hhere =>
      hcalled hhere.1 hhere.2
    rw [htally.whole_iff, ShowsCall, or_iff_right hhere]
  clear := htally.clear.tail
  supported := htally.supported.tail

/-- An idle token is passed without a call. -/
theorem skip (hidle : token.IsIdle name)
    (htally : CallTally name true whole read (token :: words)) :
    CallTally name true whole read words := by
  have htail := htally.tail fun _ hcalled => hidle.ne_name (isCalled_cons.1 hcalled).1
  rwa [Token.frees_true hidle.ne_dot] at htail

/-- A name that is not called is passed, too. -/
theorem skip_name (hcalled : ¬IsCalled name (.name word :: words))
    (htally : CallTally name true whole read (.name word :: words)) :
    CallTally name true whole read words :=
  htally.tail fun _ => hcalled

/-- Behind a point the next name is a property and no longer free. -/
theorem of_dot (htally : CallTally name true whole read (.symbol .dot :: words)) :
    CallTally name false whole read words :=
  htally.tail fun _ hcalled => nomatch (isCalled_cons.1 hcalled).1

/-- What stands after a point is not called, whatever it is. Behind it names are
    free again. -/
theorem skip_property (htally : CallTally name false whole read (token :: words))
    (hseen : token.isSeen = true) (hdot : token ≠ .symbol .dot) :
    CallTally name true whole read words := by
  have htail := htally.tail nofun
  rwa [Token.frees, if_pos hseen, bne_iff_ne.2 hdot] at htail

/-- An expression that is not called next is settled: all calls in it have been
    counted. -/
theorem settle (htally : CallTally name true whole (read ++ value.calls) words)
    (hnone : value.signedName? = none) : ExprTally name whole read value words :=
  ⟨htally, by simp [hnone]⟩

end CallTally

namespace OpenTally

/-- An expression that is not called next is settled. -/
theorem settle (htally : OpenTally name whole read value words)
    (hhead : value.signedName? = some name → words.head? ≠ some (.symbol .parenOpen)) :
    ExprTally name whole read value words where
  whole_iff := by
    rw [htally.whole_iff, or_iff_right (not_and.2 hhead)]
  clear := htally.clear
  supported := htally.supported
  settled := htally.settled

/-- A settled expression may still be called, if it is not the name before
    parentheses. -/
theorem of_expr (htally : ExprTally name whole read value words)
    (hhead : value.signedName? = some name → words.head? ≠ some (.symbol .parenOpen)) :
    OpenTally name whole read value words where
  whole_iff := by
    rw [htally.whole_iff, or_iff_right (not_and.2 hhead)]
  clear := htally.clear
  supported := htally.supported
  settled := htally.settled

/-- An expression that is no name cannot become a call of the name. -/
theorem of_none (htally : CallTally name true whole (read ++ value.calls) words)
    (hnone : value.signedName? = none) : OpenTally name whole read value words :=
  .of_expr (htally.settle hnone) (by simp [hnone])

/-- A name is called next exactly if parentheses come next. -/
theorem of_name (htally : CallTally name true whole read (.name word :: words)) :
    OpenTally name whole read (.variable word) words where
  whole_iff := by
    rw [htally.whole_iff, ShowsCall, isCalled_cons, Token.frees_true (by simp)]
    simp [Expr.calls, Expr.signedName?]
  clear := htally.clear.tail
  supported := htally.supported.tail
  settled hsigned := by
    cases hsigned
    exact (htally.clear.callee words (List.suffix_refl _)).1

/-- Parentheses around the name are not called, so it makes no difference that
    they end. -/
theorem of_close (htally : ExprTally name whole read value (.symbol .parenClose :: words)) :
    OpenTally name whole read value words := by
  refine .of_expr ⟨htally.skip (.of_isMute rfl), fun hsigned => ?_⟩ fun hsigned hhead => ?_
  · have hclosed := htally.settled hsigned
    unfold closesCallee
    split
    · rwa [closesCallee, List.dropWhile_cons_of_pos (by simp)] at hclosed
    · rfl
  · obtain ⟨rest, rfl⟩ := List.head?_eq_some_iff.1 hhead
    cases htally.settled hsigned

/-- What is called next counts as a call if it is a name, and its arguments are
    still to be read. -/
theorem of_head (htally : OpenTally name whole read value words)
    (hhead : words.head? = some (.symbol .parenOpen)) :
    CallTally name true whole (read ++ value.calls ++ value.signedName?.toList) words where
  whole_iff := by
    rw [htally.whole_iff, and_iff_left hhead, ← or_assoc, ← Option.mem_toList, ← List.mem_append]
  clear := htally.clear
  supported := htally.supported

end OpenTally

namespace Parser

variable {α β : Type} {after : β → List Token → Prop}

/-- A reader whose answer holds exactly the calls that its tokens show. -/
def Counts (name : String) (parser : Parser α) (calls : α → List String) : Prop :=
  ∀ whole read, Reads (CallTally name true whole read) parser
    fun answer => CallTally name true whole (read ++ calls answer)

/-- The same for a reader of expressions. -/
def CountsExpr (name : String) (parser : Parser Expr) : Prop :=
  ∀ whole read, Reads (CallTally name true whole read) parser (ExprTally name whole read)

/-- A reader that passes only tokens that show no call. -/
def Idles (name : String) (parser : Parser α) : Prop :=
  ∀ whole read, Reads (CallTally name true whole read) parser
    fun _ => CallTally name true whole read

/-- Parts that count their calls make a whole that counts all of them, in their
    order. -/
theorem Counts.bind {calls : α → List String} {first : Parser α} {second : α → Parser β}
    (hfirst : Counts name first calls)
    (hsecond : ∀ answer,
      Reads (CallTally name true whole (read ++ calls answer)) (second answer) after) :
    Reads (CallTally name true whole read) (first >>= second) after :=
  reads_bind (hfirst whole read) hsecond

/-- An expression that is not called next counts like any other part. -/
theorem CountsExpr.counts {parser : Parser Expr} (hparser : CountsExpr name parser) :
    Counts name parser Expr.calls :=
  fun whole read => (hparser whole read).imp fun _ _ => ExprTally.toCallTally

/-- An expression before another part, which may see whether the expression is
    called. -/
theorem CountsExpr.bind {first : Parser Expr} {second : Expr → Parser β}
    (hfirst : CountsExpr name first)
    (hsecond : ∀ value, Reads (ExprTally name whole read value) (second value) after) :
    Reads (CallTally name true whole read) (first >>= second) after :=
  reads_bind (hfirst whole read) hsecond

theorem CountsExpr.some {parser : Parser Expr} (hparser : CountsExpr name parser) :
    Counts name (Option.some <$> parser) callsOfOption :=
  fun whole read => reads_map (hparser.counts whole read) fun _ _ => id

theorem CountsExpr.of_fail {fault : ParseFault} : CountsExpr name (fail fault) :=
  fun _ _ => reads_fail

/-- A part without calls before another part. -/
theorem Idles.bind {first : Parser α} {second : α → Parser β} (hfirst : Idles name first)
    (hsecond : ∀ answer, Reads (CallTally name true whole read) (second answer) after) :
    Reads (CallTally name true whole read) (first >>= second) after :=
  reads_bind (hfirst whole read) hsecond

/-- The end of a part: the calls that have been counted are those of its
    answer. -/
theorem counts_pure {answer : β} {calls : β → List String} (hread : calls answer = read) :
    Reads (CallTally name true whole read) (pure answer)
      fun answer => CallTally name true whole (calls answer) :=
  reads_pure fun _ htally => hread ▸ htally

/-- A token that has to come next, and is idle, is passed. -/
theorem counts_expect_bind (hidle : token.IsIdle name) {second : Unit → Parser β}
    (hsecond : Reads (CallTally name true whole read) (second ()) after) :
    Reads (CallTally name true whole read) (expect token >>= second) after :=
  reads_expect_bind (hsecond.weaken fun _ => CallTally.skip hidle)

/-- A token that may come next. In both branches the calls so far are the same. -/
theorem counts_skip_ite (hidle : token.IsIdle name) {yes no : Parser β}
    (hyes : Reads (CallTally name true whole read) yes after)
    (hno : Reads (CallTally name true whole read) no after) :
    Reads (CallTally name true whole read)
      (skip token >>= fun found => if found = true then yes else no) after :=
  reads_skip_ite (hyes.weaken fun _ => CallTally.skip hidle) (hno.weaken fun _ => And.left)

/-- Looking at the next token counts nothing. -/
theorem counts_isNext_ite {yes no : Parser β}
    (hyes : Reads (CallTally name true whole read) yes after)
    (hno : Reads (CallTally name true whole read) no after) :
    Reads (CallTally name true whole read)
      (isNext token >>= fun found => if found = true then yes else no) after :=
  reads_isNext_ite (hyes.weaken fun _ => And.left) (hno.weaken fun _ => And.left)

theorem idles_skip (hidle : token.IsIdle name) : Idles name (skip token) := by
  refine fun whole read => (reads_skip token).imp fun found words htally => ?_
  cases found with
  | true => exact htally.skip hidle
  | false => exact htally.1

theorem idles_countSkipped (hidle : token.IsIdle name) : Idles name (countSkipped token) := by
  intro whole read
  refine reads_loop (fun _ => CallTally name true whole read) (fun n => ?_) 0
  exact counts_skip_ite hidle (reads_pure fun _ => id) (reads_pure fun _ => id)

/-- A part that is only there after a token of its own. Without it nothing is
    called. -/
theorem counts_default_bind (hidle : token.IsIdle name) {part : Parser α}
    {calls : α → List String} (hpart : Counts name part calls) {absent : α}
    (habsent : calls absent = []) {second : α → Parser β}
    (hsecond : ∀ found,
      Reads (CallTally name true whole (read ++ calls found)) (second found) after) :
    Reads (CallTally name true whole read) (skip token >>= fun found =>
      if found = true then part >>= second else Pure.pure absent >>= second) after := by
  refine counts_skip_ite hidle (hpart.bind hsecond) (reads_pure_bind ?_)
  have hnone := hsecond absent
  rwa [habsent, List.append_nil] at hnone

/-- Parts with commas between them count the calls of each. The items are
    collected in reverse, which the invariant of the loop has to say. -/
theorem counts_commaSeparated {calls : α → List String} {closing : Symbol}
    (hclosing : (Token.symbol closing).IsIdle name) {item : List α → Parser α}
    (hitem : ∀ items, Counts name (item items) calls) :
    Counts name (commaSeparated closing item) (List.flatMap calls) := by
  intro whole read
  have hloop : Reads (CallTally name true whole (read ++ [].flatMap calls))
      (commaSeparated closing item)
      fun items => CallTally name true whole (read ++ items.flatMap calls) := by
    refine reads_commaSeparated
      (fun items => CallTally name true whole (read ++ items.reverse.flatMap calls)) ?_ ?_
      fun items => ?_
    · exact fun items words => CallTally.skip hclosing
    · exact fun items words => CallTally.skip (.of_isMute rfl)
    · refine (hitem items whole _).imp fun found words htally => ?_
      simpa using htally
  simpa using hloop

end Parser

end PromptPacks.Template
