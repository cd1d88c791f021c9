import Mathlib.Data.List.TakeWhile
import PromptPacks.Proofs.Dictionary
import PromptPacks.Proofs.Template.Respelling
import PromptPacks.Proofs.Template.Running
import PromptPacks.Proofs.Template.Stepping
import PromptPacks.Template.Check

namespace PromptPacks.Template

open PromptPacks.Text

/-- A piece of a template without statements: text, or the name of a value. -/
inductive Piece where
  | literal (content : List Char)
  | tag (name : String)
deriving DecidableEq

/-- The names that stand for functions where no value has them. -/
def functionNames : List String :=
  ["range", "dict", "debug", "namespace"]

namespace Piece

def chars : Piece → List Char
  | .literal content => content
  | .tag name => '\x7b' :: '\x7b' :: ' ' :: (name.toList ++ [' ', '\x7d', '\x7d'])

/-- Text has no opening brace, and a name is that of a variable. -/
def IsPlain : Piece → Prop
  | .literal content => '\x7b' ∉ content
  | .tag name => isValidName name = true ∧ name ∉ functionNames

instance : DecidablePred IsPlain
  | .literal content => inferInstanceAs (Decidable ('\x7b' ∉ content))
  | .tag name => inferInstanceAs (Decidable (isValidName name = true ∧ name ∉ functionNames))

def tokens : Piece → List Token
  | .literal content => [.text content]
  | .tag name => [.exprStart, .name name, .exprEnd]

def stmt : Piece → Stmt
  | .literal content => .text content
  | .tag name => .output (.variable name)

end Piece

/-- A valid name of a variable is a name for the scanner. -/
theorem leadingName_of_isValidName {name : String} (hname : isValidName name = true) :
    leadingName name.toList = some name.toList := by
  simp only [isValidName, hasNameForm, Bool.and_eq_true] at hname
  obtain ⟨hform, -⟩ := hname
  cases hchars : name.toList with
  | nil => simp [hchars] at hform
  | cons c rest =>
    simp only [hchars, Bool.and_eq_true] at hform
    obtain ⟨hstart, hrest⟩ := hform
    rw [leadingName, if_pos hstart, List.takeWhile_eq_self_iff.2 (List.all_eq_true.1 hrest)]

/-- The end of an expression is passed, with the space before it. -/
theorem lexesTo_exprEnd {rest : List Char} {words : List Token} (hrest : LexesTo .text rest words) :
    LexesTo (.inside .expr 0) (' ' :: '\x7d' :: '\x7d' :: rest) (.exprEnd :: words) := by
  have hend : step (.inside .expr 0) '\x7d' ('\x7d' :: rest) =
      .pass (some (0, .exprEnd)) 1 .text := rfl
  have hblank : step (.inside .expr 0) ' ' ('\x7d' :: '\x7d' :: rest) =
      .pass none 0 (.inside .expr 0) := rfl
  exact lexesTo_of_pass hblank (lexesTo_of_pass hend hrest)

/-- A name in delimiters is read as three tokens, whatever follows. The spaces
    around the name are what ends it and what keeps a sign from being read. -/
theorem lexesTo_tag {name : String} {rest : List Char} {words : List Token}
    (hname : isValidName name = true) (hrest : LexesTo .text rest words) :
    LexesTo .text ((Piece.tag name).chars ++ rest) ((Piece.tag name).tokens ++ words) := by
  have hword := leadingName_of_isValidName hname
  obtain ⟨c, letters, hchars, hstart, -⟩ := exists_of_leadingName hword
  have hlead : leadingName (c :: (letters ++ ' ' :: '\x7d' :: '\x7d' :: rest)) =
      some name.toList := by
    rw [← List.cons_append, ← hchars]
    exact leadingName_append.2 ⟨hword, rfl⟩
  have hopening : step .text '\x7b'
      ('\x7b' :: ' ' :: c :: (letters ++ ' ' :: '\x7d' :: '\x7d' :: rest)) =
        .pass (some (0, .exprStart)) 1 (.inside .expr 0) := rfl
  have hspace : step (.inside .expr 0) ' ' (c :: (letters ++ ' ' :: '\x7d' :: '\x7d' :: rest)) =
      .pass none 0 (.inside .expr 0) := by
    have hnone : (c :: (letters ++ ' ' :: '\x7d' :: '\x7d' :: rest)).takeWhile isAsciiBlank = [] :=
      List.takeWhile_cons_of_neg (by simp [isAsciiBlank_eq_false hstart])
    rw [step, insideStep, hnone]
    rfl
  have hletters : (letters ++ ' ' :: '\x7d' :: '\x7d' :: rest).drop (name.toList.length - 1) =
      ' ' :: '\x7d' :: '\x7d' :: rest := by
    rw [hchars, List.length_cons, Nat.add_sub_cancel, List.drop_left]
  have hend := lexesTo_exprEnd hrest
  rw [← hletters] at hend
  have hnamed := lexesTo_of_pass (step_of_isNameStart hstart hlead) hend
  have hall := lexesTo_of_pass hopening (lexesTo_of_pass hspace hnamed)
  rw [String.ofList_toList] at hall
  simpa [Piece.chars, Piece.tokens, hchars] using hall

/-- No delimiter opens without a brace. -/
theorem opens_eq_false {c : Char} {rest : List Char} (hbrace : c ≠ '\x7b') :
    opens (c :: rest) = false := by
  unfold opens
  split
  · next heq => exact absurd (List.cons.inj heq).1 hbrace
  · rfl

/-- Where pieces start that do not start with text. -/
def StartsTag (cs : List Char) : Prop :=
  cs = [] ∨ ∃ more, cs = '\x7b' :: '\x7b' :: ' ' :: more

/-- Text without braces goes up to the next tag. -/
theorem leadLength_append {lead rest : List Char} (hbrace : '\x7b' ∉ lead)
    (hstarts : StartsTag rest) : leadLength (lead ++ rest) = lead.length := by
  induction lead with
  | nil =>
    obtain rfl | ⟨more, rfl⟩ := hstarts
    · rfl
    · rfl
  | cons c lead ih =>
    obtain ⟨hc, hlead⟩ := not_or.1 (mt List.mem_cons.2 hbrace)
    rw [List.cons_append, leadLength, opens_eq_false (Ne.symm hc), if_neg Bool.false_ne_true,
      ih hlead, List.length_cons]

/-- The text before a tag is one token. It may not be empty, since no token is
    made of an empty text. -/
theorem lexesTo_lead {lead rest : List Char} {words : List Token} (hlead : lead ≠ [])
    (hbrace : '\x7b' ∉ lead) (hstarts : StartsTag rest) (hrest : LexesTo .text rest words) :
    LexesTo .text (lead ++ rest) (.text lead :: words) := by
  have hlength := leadLength_append hbrace hstarts
  obtain ⟨c, letters, rfl⟩ := List.exists_cons_of_ne_nil hlead
  have hsign : ((c :: letters ++ rest).drop ((c :: letters).length + 2)).head? ≠ some '-' := by
    rw [List.drop_length_add_append]
    obtain rfl | ⟨more, rfl⟩ := hstarts
    · simp
    · simp
  have hstep : step .text c (letters ++ rest) =
      .pass (some (0, .text (c :: letters))) letters.length .text := by
    rw [step, ← List.cons_append, textStep, hlength, List.take_left, beq_false_of_ne hsign]
    rfl
  refine lexesTo_of_pass hstep ?_
  rwa [List.drop_left]

def leadPieces (lead : List Char) : List Piece :=
  if lead.isEmpty then [] else [.literal lead]

/-- The pieces with some text in front of them: stretches of text that follow
    each other are one piece, and none is empty. -/
def merged (lead : List Char) : List Piece → List Piece
  | [] => leadPieces lead
  | .literal content :: rest => merged (lead ++ content) rest
  | .tag name :: rest => leadPieces lead ++ .tag name :: merged [] rest

/-- Text before a tag is a token or nothing, and the pieces made of it count it
    in the same way. -/
theorem lexesTo_leadPieces {lead rest : List Char} {words : List Token}
    (hbrace : '\x7b' ∉ lead) (hstarts : StartsTag rest) (hrest : LexesTo .text rest words) :
    LexesTo .text (lead ++ rest) ((leadPieces lead).flatMap Piece.tokens ++ words) := by
  cases lead with
  | nil => exact hrest
  | cons c lead => exact lexesTo_lead (List.cons_ne_nil c lead) hbrace hstarts hrest

/-- The tokens of pieces are those of the merged pieces, in which text that is
    written side by side is one text. -/
theorem lexesTo_merged {lead : List Char} {pieces : List Piece} (hbrace : '\x7b' ∉ lead)
    (hpieces : ∀ piece ∈ pieces, piece.IsPlain) :
    LexesTo .text (lead ++ pieces.flatMap Piece.chars)
      ((merged lead pieces).flatMap Piece.tokens) := by
  induction pieces generalizing lead with
  | nil =>
    have hlead := lexesTo_leadPieces hbrace (.inl rfl) (lexesTo_nil .text)
    rwa [List.append_nil (List.flatMap _ _)] at hlead
  | cons piece rest ih =>
    obtain ⟨hpiece, hrest⟩ := List.forall_mem_cons.1 hpieces
    cases piece with
    | literal content =>
      have hmerged := ih (List.not_mem_append hbrace hpiece) hrest
      rwa [List.append_assoc] at hmerged
    | tag name =>
      have hmerged : LexesTo .text (rest.flatMap Piece.chars)
          ((merged [] rest).flatMap Piece.tokens) := ih List.not_mem_nil hrest
      have hlead := lexesTo_leadPieces hbrace (.inr ⟨_, rfl⟩) (lexesTo_tag hpiece.1 hmerged)
      rwa [merged, List.flatMap_append, List.flatMap_cons, List.flatMap_cons]

/-- Only text that is not empty becomes a piece. -/
theorem mem_leadPieces {lead : List Char} {piece : Piece} :
    piece ∈ leadPieces lead ↔ lead ≠ [] ∧ piece = .literal lead := by
  cases lead with
  | nil => simp [leadPieces]
  | cons c lead => simp [leadPieces]

/-- Merging text keeps the names that are used. -/
theorem tag_mem_merged {lead : List Char} {pieces : List Piece} {name : String} :
    .tag name ∈ merged lead pieces ↔ .tag name ∈ pieces := by
  induction pieces generalizing lead with
  | nil => simp [merged, mem_leadPieces]
  | cons piece rest ih =>
    cases piece with
    | literal content => simp [merged, ih]
    | tag other => simp [merged, ih, mem_leadPieces]

/-- What is made of each piece on its own, and of a text character by character,
    can be made of the merged pieces. -/
theorem flatMap_merged {f : Piece → List Char}
    (hliteral : ∀ content, f (.literal content) = content) (lead : List Char)
    (pieces : List Piece) :
    (merged lead pieces).flatMap f = lead ++ pieces.flatMap f := by
  have hlead : ∀ lead, (leadPieces lead).flatMap f = lead := by
    intro lead
    cases lead with
    | nil => rfl
    | cons c lead => simp [leadPieces, hliteral]
  induction pieces generalizing lead with
  | nil => rw [merged, hlead, List.flatMap_nil, List.append_nil]
  | cons piece rest ih =>
    cases piece with
    | literal content => rw [merged, ih, List.flatMap_cons, hliteral, List.append_assoc]
    | tag name =>
      rw [merged, List.flatMap_append, hlead, List.flatMap_cons, ih, List.nil_append]
      rfl

open PromptPacks.Template.Parser

/-- A name that is valid for a variable is read as a variable. It is no word of
    the language and no constant. -/
theorem runs_expr_name {name : String} (hname : isValidName name = true) (words : List Token) :
    Runs (innerWithin maxDepth).expr (.name name :: .exprEnd :: words) (.variable name)
      (.exprEnd :: words) := by
  have hreserved : name ∉ reservedNames := by
    simp only [isValidName, Bool.and_eq_true] at hname
    simpa using hname.2
  have hsubset : Nested.constantWords ⊆ reservedNames := by decide
  have hconstant : name ∉ Nested.constantWords := fun hmem => hreserved (hsubset hmem)
  have hnot : name ≠ "not" := by
    rintro rfl
    exact hreserved (by decide)
  have hprimary : Runs (innerWithin 149).primary (.name name :: .exprEnd :: words) (.variable name)
      (.exprEnd :: words) := Nested.runs_innermost_name hconstant
  exact Nested.runs_conditional hprimary (by simp) (by simpa using hnot)

/-- Every piece is read as one statement. The rounds suffice, because each piece
    has a token at least. -/
theorem runs_rounds_pieces {inner : Inner} {pieces : List Piece}
    (hexpr : ∀ name, .tag name ∈ pieces → ∀ words, Runs inner.expr (.name name :: .exprEnd :: words)
      (.variable name) (.exprEnd :: words))
    {n : Nat} (hn : (pieces.flatMap Piece.tokens).length < n) (earlier : List Stmt) :
    Runs (rounds (inner.piece []) n earlier) (pieces.flatMap Piece.tokens)
      (earlier.reverse ++ pieces.map Piece.stmt) [] := by
  obtain ⟨n, rfl⟩ := Nat.exists_eq_succ_of_ne_zero (Nat.ne_zero_of_lt hn)
  induction pieces generalizing n earlier with
  | nil =>
    rw [List.map_nil, List.append_nil]
    exact runs_rounds_done Inner.runs_piece_nil n
  | cons piece rest ih =>
    have hlater : ∀ name, .tag name ∈ rest → ∀ words, Runs inner.expr
        (.name name :: .exprEnd :: words) (.variable name) (.exprEnd :: words) :=
      fun name hmem => hexpr name (List.mem_cons_of_mem _ hmem)
    have hpos : 0 < piece.tokens.length := by cases piece <;> exact Nat.succ_pos _
    rw [List.flatMap_cons, List.length_append] at hn
    obtain ⟨m, rfl⟩ := Nat.exists_eq_succ_of_ne_zero (show n ≠ 0 by omega)
    have hrest := ih hlater (piece.stmt :: earlier) m (by omega)
    rw [List.reverse_cons, List.append_assoc, List.singleton_append, ← List.map_cons] at hrest
    refine runs_rounds_again ?_ hrest
    cases piece with
    | literal content => exact Inner.runs_piece_text
    | tag name => exact Inner.runs_piece_output (hexpr name List.mem_cons_self _)

/-- The statements of a template of pieces are those of its merged pieces. -/
theorem parse_pieces {pieces : List Piece} (hpieces : ∀ piece ∈ pieces, piece.IsPlain) :
    parse (pieces.flatMap Piece.chars) = .ok ((merged [] pieces).map Piece.stmt) := by
  obtain ⟨hwords, hfault⟩ := lexesTo_merged List.not_mem_nil hpieces 0
  rw [List.nil_append] at hwords hfault
  have hexpr : ∀ name, .tag name ∈ merged [] pieces → ∀ words, Runs (innerWithin maxDepth).expr
      (.name name :: .exprEnd :: words) (.variable name) (.exprEnd :: words) :=
    fun name hname => runs_expr_name (hpieces _ (tag_mem_merged.1 hname)).1
  have hruns := runs_loop (runs_rounds_pieces hexpr (Nat.lt_succ_self _) [])
  rw [← hwords] at hruns
  exact hruns.run_eq hfault

/-- No tag of a statement opens in a template of pieces, since its only opening
    braces are those of names, and each of them is followed by another one or by
    a space. -/
theorem Piece.not_tagOpening {pieces : List Piece} (hpieces : ∀ piece ∈ pieces, piece.IsPlain) :
    ¬tagOpening <:+: pieces.flatMap Piece.chars := by
  induction pieces with
  | nil => simp [tagOpening]
  | cons piece rest ih =>
    obtain ⟨hpiece, hrest⟩ := List.forall_mem_cons.1 hpieces
    rw [List.flatMap_cons]
    intro hpart
    cases piece with
    | literal content => exact ih hrest (infix_of_append hpiece hpart)
    | tag name =>
      have hletters : '\x7b' ∉ ' ' :: (name.toList ++ [' ', '\x7d', '\x7d']) := by
        have hchars := isNameChar_of_leadingName (leadingName_of_isValidName hpiece.1)
        have hbrace : '\x7b' ∉ name.toList := fun hmem => by cases hchars _ hmem
        simpa using hbrace
      obtain hfirst | hsecond := List.infix_cons_iff.1 hpart
      · simp [tagOpening] at hfirst
      obtain hfirst | hthird := List.infix_cons_iff.1 hsecond
      · simp [tagOpening] at hfirst
      exact ih hrest (infix_of_append hletters hthird)

/-- Without a tag nothing is spelled in another way, so the template is read as
    it is written. -/
theorem read_pieces {pieces : List Piece} (hpieces : ∀ piece ∈ pieces, piece.IsPlain) :
    read (String.ofList (pieces.flatMap Piece.chars)) =
      .ok ((merged [] pieces).map Piece.stmt) := by
  have hspelling : ¬HasLongSpelling (pieces.flatMap Piece.chars) := by
    rintro ⟨before, lead, behind, hchars, ⟨sign, space, rfl, -, -⟩, -⟩
    refine Piece.not_tagOpening hpieces ⟨before, sign ++ space ++ (longSpelling ++ behind), ?_⟩
    simp only [hchars, List.append_assoc]
  rw [read, String.toList_ofList, respell_eq_self_iff.2 hspelling, parse_pieces hpieces]

/-- What is shown of a piece. -/
def Piece.printed (context : Context) : Piece → List Char
  | .literal content => content
  | .tag name => ((Scope.start context).valueOf name).printed

/-- Pieces are shown one after the other, and none of them changes what is
    bound. -/
theorem runBody_pieces (around : Around) (context : Context) (pieces : List Piece) :
    runBody around (pieces.map Piece.stmt) (Scope.start context) =
      some (pieces.flatMap (Piece.printed context), Scope.start context) := by
  induction pieces with
  | nil => rfl
  | cons piece rest ih =>
    have hstmt : piece.stmt.run around (Scope.start context) =
        some (piece.printed context, Scope.start context) := by
      cases piece <;> rfl
    rw [List.map_cons, runBody]
    simp only [bind, StateT.bind, hstmt, Option.bind_some, ih]
    rfl

/-- A template of pieces is shown piece by piece. Merging the pieces does not
    show. -/
theorem render_eq_printed {pieces : List Piece} (hpieces : ∀ piece ∈ pieces, piece.IsPlain)
    (context : Context) : render (String.ofList (pieces.flatMap Piece.chars)) context =
      String.ofList (pieces.flatMap (Piece.printed context)) := by
  have hliteral : ∀ content, Piece.printed context (.literal content) = content := fun _ => rfl
  have hmerged := flatMap_merged hliteral [] pieces
  rw [render, read_pieces hpieces]
  simp only [output?, StateT.run, runBody_pieces, hmerged]
  rfl

/-- The text of a value that is a text, a whole number or a truth value. -/
def wording? : ContextValue → Option String
  | .text s => some s
  | .integer n => some (toString n)
  | .bool b => some (if b then "True" else "False")
  | .number _ | .list _ => none

/-- A value that has a wording is shown in it. -/
theorem printed_of_wording? {value : ContextValue} {wording : String}
    (hwording : wording? value = some wording) :
    (Value.ofContext value).printed = wording.toList := by
  cases value with
  | bool b => cases b <;> cases hwording <;> rfl
  | integer n => cases hwording; rfl
  | text s => cases hwording; rfl
  | number x => cases hwording
  | list items => cases hwording

/-- What is shown of a piece where all values have a wording. -/
def Piece.output (context : Context) : Piece → List Char
  | .literal content => content
  | .tag name => (((context.get? name).bind wording?).getD "").toList

/-- A piece is shown as the values have it. A name without a value shows
    nothing, provided that it is none of a function. -/
theorem Piece.printed_eq_output {context : Context} {piece : Piece} (hplain : piece.IsPlain)
    (hcontext : ∀ name value, context.get? name = some value → (wording? value).isSome = true) :
    piece.printed context = piece.output context := by
  cases piece with
  | literal content => rfl
  | tag name =>
    have hrange : name ≠ "range" := by
      rintro rfl
      exact hplain.2 (by decide)
    have hlocal : Scope.local? name (Scope.start context).frames = none := by
      simp [Scope.start, Scope.local?]
    rw [Piece.printed, Piece.output, Scope.valueOf, hlocal]
    cases hvalue : context.get? name with
    | none => simp [Scope.start, hvalue, hrange, Value.printed]
    | some value =>
      obtain ⟨wording, hwording⟩ := Option.isSome_iff_exists.1 (hcontext name value hvalue)
      simp [Scope.start, hvalue, hwording, printed_of_wording? hwording]

/-- The names that pieces read are those in delimiters. -/
theorem mem_freeInBody_pieces {known : List String} {pieces : List Piece} {name : String} :
    name ∈ freeInBody known (pieces.map Piece.stmt) ↔ .tag name ∈ pieces ∧ name ∉ known := by
  induction pieces with
  | nil => simp [freeInBody]
  | cons piece rest ih =>
    cases piece with
    | literal content => simp [freeInBody, Piece.stmt, Stmt.freeNames, Stmt.knownAfter, ih]
    | tag other =>
      simp only [List.map_cons, freeInBody, Piece.stmt, Stmt.freeNames, Stmt.knownAfter, Expr.names,
        List.mem_append, ih, List.mem_filter, List.mem_cons, Piece.tag.injEq]
      by_cases heq : name = other
      · simp [heq]
      · simp [heq]

/-- A template without statements comes out as its text with the wordings of the
    values in place of their names, and exactly these names are reported. -/
theorem render_pieces {pieces : List Piece} {context : Context}
    (hpieces : ∀ piece ∈ pieces, piece.IsPlain)
    (hcontext : ∀ name value, context.get? name = some value → (wording? value).isSome = true) :
    render (String.ofList (pieces.flatMap Piece.chars)) context =
        String.ofList (pieces.flatMap (Piece.output context)) ∧
      ∀ name, name ≠ "self" →
        (name ∈ variableNames (String.ofList (pieces.flatMap Piece.chars)) ↔
          .tag name ∈ pieces) := by
  constructor
  · rw [render_eq_printed hpieces]
    refine congrArg String.ofList (List.flatMap_congr fun piece hpiece => ?_)
    exact Piece.printed_eq_output (hpieces piece hpiece) hcontext
  · intro name hself
    rw [variableNames, read_pieces hpieces]
    simp only [mem_sortedNames, freeNames, mem_freeInBody_pieces, tag_mem_merged]
    simp [hself]

/-- Text in which nothing is a tag, and names with and without a value. -/
def pieceSample : List Piece :=
  [.literal "<b>\n".toList, .tag "scene", .literal "\x7d\x7d %\x7d".toList, .tag "count",
    .tag "flag", .literal [], .literal " # ".toList, .tag "missing"]

/-- A text that looks like a template, a number and a truth value. -/
def pieceContext : Context :=
  .ofList [("scene", .text "\x7b\x7b count \x7d\x7d <i>&</i>\n"), ("count", .integer (-3)),
    ("flag", .bool true)]

/-- What a value brings with it is not read again, braces included. The name
    without a value is reported. -/
theorem render_pieces_sample :
    render (String.ofList (pieceSample.flatMap Piece.chars)) pieceContext =
        "<b>\n\x7b\x7b count \x7d\x7d <i>&</i>\n\x7d\x7d %\x7d-3True # " ∧
      "missing" ∈ variableNames (String.ofList (pieceSample.flatMap Piece.chars)) := by
  have hpieces : ∀ piece ∈ pieceSample, piece.IsPlain := by decide +kernel
  have hentries : ∀ entry ∈ pieceContext.entries, (wording? entry.2).isSome = true := by
    decide +kernel
  have hcontext : ∀ name value, pieceContext.get? name = some value →
      (wording? value).isSome = true :=
    fun name value hvalue => hentries _ (Dictionary.mem_entries_iff.2 hvalue)
  obtain ⟨hrender, hnames⟩ := render_pieces hpieces hcontext
  refine ⟨?_, (hnames "missing" (by decide)).2 (by simp [pieceSample])⟩
  rw [hrender]
  decide +kernel

/-- A truth value is not spelled as it is in a template, and `self` is not
    reported although it stands in a tag like any other name. -/
theorem render_flag :
    ((Piece.tag "flag").IsPlain ∧ pieceContext.get? "flag" = some (.bool true) ∧
      render (String.ofList ([.tag "flag"].flatMap Piece.chars)) pieceContext = "True" ∧
      "True" ≠ "true") ∧
    (Piece.tag "self").IsPlain ∧
      "self" ∉ variableNames (String.ofList ([.tag "self"].flatMap Piece.chars)) := by
  have hflag : (Piece.tag "flag").IsPlain := by decide +kernel
  have hself : (Piece.tag "self").IsPlain := by decide +kernel
  refine ⟨⟨hflag, by rfl, ?_, by decide⟩, hself, ?_⟩
  · rw [render_eq_printed (List.forall_mem_singleton.2 hflag)]
    rfl
  · rw [variableNames, read_pieces (List.forall_mem_singleton.2 hself)]
    simp [mem_sortedNames, freeNames, mem_freeInBody_pieces]

end PromptPacks.Template
