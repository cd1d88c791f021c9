import Mathlib.Data.List.Infix
import PromptPacks.Template.Check

namespace PromptPacks.Template

/-- The name that an expression is, with or without minus signs before it. -/
def Expr.signedName? : Expr → Option String
  | .variable name => some name
  | .negate operand => operand.signedName?
  | _ => none

mutual

/-- The names that an expression calls. A name with minus signs before it
    counts. -/
def Expr.calls : Expr → List String
  | .variable _ | .literal _ => []
  | .list items => callsOfItems items
  | .map entries => callsOfEntries entries
  | .negate operand | .not operand => operand.calls
  | .both left right | .either left right | .binary _ left right => left.calls ++ right.calls
  | .compare first rest => first.calls ++ callsOfOperands rest
  | .conditional value test otherwise => value.calls ++ test.calls ++ callsOfOption otherwise
  | .property subject _ => subject.calls
  | .item subject index => subject.calls ++ index.calls
  | .slice subject start stop step =>
    subject.calls ++ callsOfOption start ++ callsOfOption stop ++ callsOfOption step
  | .call callee arguments =>
    callee.calls ++ callee.signedName?.toList ++ callsOfArguments arguments
  | .filter subject _ arguments => callsOfOption subject ++ callsOfArguments arguments
  | .test subject _ arguments => subject.calls ++ callsOfArguments arguments

def Argument.calls : Argument → List String
  | .positional value | .named _ value | .spread value | .spreadNamed value => value.calls

def callsOfItems : List Expr → List String
  | [] => []
  | item :: rest => item.calls ++ callsOfItems rest

def callsOfEntries : List (Expr × Expr) → List String
  | [] => []
  | (key, value) :: rest => key.calls ++ value.calls ++ callsOfEntries rest

/-- The names that the further operands of a comparison call. -/
def callsOfOperands : List (CompareOp × Expr) → List String
  | [] => []
  | (_, operand) :: rest => operand.calls ++ callsOfOperands rest

/-- The names that an expression calls where there is one. -/
def callsOfOption : Option Expr → List String
  | none => []
  | some value => value.calls

def callsOfArguments : List Argument → List String
  | [] => []
  | argument :: rest => argument.calls ++ callsOfArguments rest

end

/-- The names that the values of some assignments call. -/
def callsOfAssignments (assignments : List (Target × Expr)) : List String :=
  assignments.flatMap (·.2.calls)

mutual

/-- The names that a statement calls. -/
def Stmt.calls : Stmt → List String
  | .text _ => []
  | .output value | .assign _ value | .extending value | .including value _
  | .importingFrom value _ | .perform value => value.calls
  | .forLoop _ source condition _ body otherwise =>
    source.calls ++ callsOfOption condition ++ callsOfBody body ++ callsOfBody otherwise
  | .conditional test body otherwise => test.calls ++ callsOfBody body ++ callsOfBody otherwise
  | .capture _ filter body => callsOfOption filter ++ callsOfBody body
  | .filtered value body | .autoescape value body => value.calls ++ callsOfBody body
  | .scoped assignments body => callsOfAssignments assignments ++ callsOfBody body
  | .block _ body => callsOfBody body
  | .importing source target => source.calls ++ target.calls
  | .procedure _ _ defaults body => callsOfItems defaults ++ callsOfBody body
  | .callBlock _ defaults call body => callsOfItems defaults ++ call.calls ++ callsOfBody body

def callsOfBody : List Stmt → List String
  | [] => []
  | stmt :: rest => stmt.calls ++ callsOfBody rest

end

theorem callsOfItems_eq_flatMap (items : List Expr) :
    callsOfItems items = items.flatMap Expr.calls := by
  induction items with
  | nil => rfl
  | cons item items ih => rw [callsOfItems, ih, List.flatMap_cons]

theorem callsOfEntries_eq_flatMap (entries : List (Expr × Expr)) :
    callsOfEntries entries = entries.flatMap fun entry => entry.1.calls ++ entry.2.calls := by
  induction entries with
  | nil => rfl
  | cons entry entries ih => rw [callsOfEntries, ih, List.flatMap_cons]

theorem callsOfOperands_eq_flatMap (operands : List (CompareOp × Expr)) :
    callsOfOperands operands = operands.flatMap (·.2.calls) := by
  induction operands with
  | nil => rfl
  | cons operand operands ih => rw [callsOfOperands, ih, List.flatMap_cons]

theorem callsOfArguments_eq_flatMap (arguments : List Argument) :
    callsOfArguments arguments = arguments.flatMap Argument.calls := by
  induction arguments with
  | nil => rfl
  | cons argument arguments ih => rw [callsOfArguments, ih, List.flatMap_cons]

theorem callsOfBody_eq_flatMap (body : List Stmt) : callsOfBody body = body.flatMap Stmt.calls := by
  induction body with
  | nil => rfl
  | cons stmt body ih => rw [callsOfBody, ih, List.flatMap_cons]

/-- Signs in front of an expression call nothing. -/
theorem calls_repeat {f : Expr → Expr} (hf : ∀ operand, (f operand).calls = operand.calls)
    (n : Nat) (operand : Expr) : (Nat.repeat f n operand).calls = operand.calls := by
  induction n with
  | zero => rfl
  | succ n ih => rw [Nat.repeat, hf, ih]

/-- Signs in front of a name leave it the name that may be called. -/
theorem signedName?_repeat (n : Nat) (operand : Expr) :
    (Nat.repeat .negate n operand).signedName? = operand.signedName? := by
  induction n with
  | zero => rfl
  | succ n ih => rw [Nat.repeat, Expr.signedName?, ih]

/-- The words that have a meaning of their own in the template language. -/
def languageWords : List String :=
  ["and", "or", "not", "in", "is", "if", "else", "recursive", "true", "True", "false", "False",
    "none", "None"] ++ supportedStatements

/-- Whether a name stands first, right before an opening parenthesis. -/
def IsCalled (name : String) (words : List Token) : Prop :=
  [.name name, .symbol .parenOpen] <+: words

/-- Whether a token is neither text nor a string. -/
def Token.isSeen : Token → Bool
  | .text _ | .string _ => false
  | _ => true

/-- Whether a name may be called after a token: not after a point. Texts and
    strings do not change this. -/
def Token.frees (isFree : Bool) (token : Token) : Bool :=
  if token.isSeen then token != .symbol .dot else isFree

/-- Whether a name stands somewhere before an opening parenthesis, and not after
    a point. `isFree` tells whether no point comes before these tokens. -/
def ShowsCall (name : String) : Bool → List Token → Prop
  | _, [] => False
  | isFree, token :: words =>
    (isFree = true ∧ IsCalled name (token :: words)) ∨ ShowsCall name (token.frees isFree) words

/-- Whether some parentheses are closed before another one is opened. -/
def closesCallee : List Token → Bool
  | .symbol .parenClose :: words =>
    (words.dropWhile (· == .symbol .parenClose)).head? == some (.symbol .parenOpen)
  | _ => false

/-- Whether nothing but texts and strings stands before an opening parenthesis. -/
def hidesCallee (words : List Token) : Bool :=
  words.head? != some (.symbol .parenOpen) &&
    (words.filter Token.isSeen).head? == some (.symbol .parenOpen)

/-- Tokens among which a name stands before an opening parenthesis only where it
    is called or follows a point. It is not the name of a filter or a test with
    arguments, no string stands between the two, and no parentheses end there. -/
structure IsClear (name : String) (words : List Token) : Prop where
  filter : ¬[.symbol .pipe, .name name, .symbol .parenOpen] <:+: words
  block : ¬[.tagStart, .name "filter", .name name, .symbol .parenOpen] <:+: words
  test : ¬[.name "is", .name name, .symbol .parenOpen] <:+: words
  negated : ¬[.name "is", .name "not", .name name, .symbol .parenOpen] <:+: words
  callee : ∀ rest, .name name :: rest <:+ words →
    closesCallee rest = false ∧ hidesCallee rest = false

instance (name : String) : DecidablePred (IsClear name) := fun words =>
  decidable_of_iff (¬[.symbol .pipe, .name name, .symbol .parenOpen] <:+: words ∧
      ¬[.tagStart, .name "filter", .name name, .symbol .parenOpen] <:+: words ∧
      ¬[.name "is", .name name, .symbol .parenOpen] <:+: words ∧
      ¬[.name "is", .name "not", .name name, .symbol .parenOpen] <:+: words ∧
      ∀ found ∈ words.tails, found.head? = some (.name name) →
        closesCallee found.tail = false ∧ hidesCallee found.tail = false)
    ⟨fun ⟨hfilter, hblock, htest, hnegated, hcallee⟩ =>
      ⟨hfilter, hblock, htest, hnegated, fun rest hsuffix =>
        hcallee _ ((List.mem_tails _ words).2 hsuffix) rfl⟩,
      fun ⟨hfilter, hblock, htest, hnegated, hcallee⟩ =>
        ⟨hfilter, hblock, htest, hnegated, fun found hmem hhead => by
          obtain ⟨rest, rfl⟩ := List.head?_eq_some_iff.1 hhead
          exact hcallee rest ((List.mem_tails _ words).1 hmem)⟩⟩

/-- Tokens in which every tag starts with a word that templates may use. -/
def AreSupported (words : List Token) : Prop :=
  ∀ word, [.tagStart, .name word] <:+: words → word ∈ supportedStatements

section

variable {name : String} {token : Token} {words : List Token}

/-- A name is called where it stands before an opening parenthesis. -/
theorem isCalled_cons :
    IsCalled name (token :: words) ↔
      token = .name name ∧ words.head? = some (.symbol .parenOpen) := by
  rw [IsCalled, List.cons_prefix_cons, eq_comm]
  cases words with
  | nil => simp
  | cons next words => simp [eq_comm]

theorem isClear_nil : IsClear name [] := by
  constructor <;> simp

/-- What is clear of a name stays so when tokens are read. -/
theorem IsClear.suffix {rest : List Token} (hclear : IsClear name words)
    (hsuffix : rest <:+ words) : IsClear name rest where
  filter hfound := hclear.filter (hfound.trans hsuffix.isInfix)
  block hfound := hclear.block (hfound.trans hsuffix.isInfix)
  test hfound := hclear.test (hfound.trans hsuffix.isInfix)
  negated hfound := hclear.negated (hfound.trans hsuffix.isInfix)
  callee rest hrest := hclear.callee rest (hrest.trans hsuffix)

theorem IsClear.tail (hclear : IsClear name (token :: words)) : IsClear name words :=
  hclear.suffix (List.suffix_cons token words)

/-- Behind a bar the name is no filter with arguments. -/
theorem IsClear.not_isCalled_of_pipe (hclear : IsClear name (.symbol .pipe :: words)) :
    ¬IsCalled name words :=
  fun hcalled => hclear.filter ((List.prefix_cons_inj _).2 hcalled).isInfix

/-- The name is no filter of a block with arguments. -/
theorem IsClear.not_isCalled_of_block
    (hclear : IsClear name (.tagStart :: .name "filter" :: words)) : ¬IsCalled name words :=
  fun hcalled =>
    hclear.block ((List.prefix_cons_inj _).2 ((List.prefix_cons_inj _).2 hcalled)).isInfix

/-- The name is no test with arguments. -/
theorem IsClear.not_isCalled_of_is (hclear : IsClear name (.name "is" :: words)) :
    ¬IsCalled name words :=
  fun hcalled => hclear.test ((List.prefix_cons_inj _).2 hcalled).isInfix

/-- The name is no negated test with arguments. -/
theorem IsClear.not_isCalled_of_is_not
    (hclear : IsClear name (.name "is" :: .name "not" :: words)) : ¬IsCalled name words :=
  fun hcalled =>
    hclear.negated ((List.prefix_cons_inj _).2 ((List.prefix_cons_inj _).2 hcalled)).isInfix

/-- Supported statements stay so when tokens are read. -/
theorem AreSupported.tail (hsupported : AreSupported (token :: words)) : AreSupported words :=
  fun word hfound => hsupported word (hfound.trans (List.suffix_cons token words).isInfix)

end

end PromptPacks.Template
