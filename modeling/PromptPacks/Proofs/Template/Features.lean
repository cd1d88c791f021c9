import PromptPacks.Template.Check

namespace PromptPacks.Template

/-- Something that a template asks of whoever renders it. -/
inductive Feature where
  | filter (name : String)
  | statement (keyword : String)
deriving DecidableEq

def Feature.IsSupported : Feature → Prop
  | .filter name => name ∈ Filter.known
  | .statement keyword => keyword ∈ supportedStatements

instance : DecidablePred Feature.IsSupported
  | .filter name => inferInstanceAs (Decidable (name ∈ Filter.known))
  | .statement keyword => inferInstanceAs (Decidable (keyword ∈ supportedStatements))

mutual

/-- The features that an expression uses, in the order in which they are
    written. -/
def Expr.features : Expr → List Feature
  | .variable _ | .literal _ => []
  | .list items => featuresOfItems items
  | .map entries => featuresOfEntries entries
  | .negate operand | .not operand => operand.features
  | .both left right | .either left right | .binary _ left right =>
    left.features ++ right.features
  | .compare first rest => first.features ++ featuresOfOperands rest
  | .conditional value test otherwise =>
    value.features ++ test.features ++ featuresOfOption otherwise
  | .property subject _ => subject.features
  | .item subject index => subject.features ++ index.features
  | .slice subject start stop step =>
    subject.features ++ featuresOfOption start ++ featuresOfOption stop ++ featuresOfOption step
  | .call callee arguments => callee.features ++ featuresOfArguments arguments
  | .filter subject name arguments =>
    featuresOfOption subject ++ .filter name :: featuresOfArguments arguments
  | .test subject _ arguments => subject.features ++ featuresOfArguments arguments

def Argument.features : Argument → List Feature
  | .positional value | .named _ value | .spread value | .spreadNamed value => value.features

def featuresOfItems : List Expr → List Feature
  | [] => []
  | item :: rest => item.features ++ featuresOfItems rest

def featuresOfEntries : List (Expr × Expr) → List Feature
  | [] => []
  | (key, value) :: rest => key.features ++ value.features ++ featuresOfEntries rest

/-- The features that the further operands of a comparison use. -/
def featuresOfOperands : List (CompareOp × Expr) → List Feature
  | [] => []
  | (_, operand) :: rest => operand.features ++ featuresOfOperands rest

/-- The features that an expression uses where there is one. -/
def featuresOfOption : Option Expr → List Feature
  | none => []
  | some value => value.features

def featuresOfArguments : List Argument → List Feature
  | [] => []
  | argument :: rest => argument.features ++ featuresOfArguments rest

end

/-- The features that the values of some assignments use. -/
def featuresOfAssignments (assignments : List (Target × Expr)) : List Feature :=
  assignments.flatMap (·.2.features)

mutual

/-- The features that a statement uses, in the order in which they are written. -/
def Stmt.features : Stmt → List Feature
  | .text _ => []
  | .output value => value.features
  | .forLoop _ source condition _ body otherwise =>
    .statement "for" :: (source.features ++ featuresOfOption condition ++ featuresOfBody body ++
      featuresOfBody otherwise)
  | .conditional test body otherwise =>
    .statement "if" :: (test.features ++ featuresOfBody body ++ featuresOfBody otherwise)
  | .assign _ value => .statement "set" :: value.features
  | .capture _ filter body => .statement "set" :: (featuresOfOption filter ++ featuresOfBody body)
  | .filtered filter body => .statement "filter" :: (filter.features ++ featuresOfBody body)
  | .scoped assignments body =>
    .statement "with" :: (featuresOfAssignments assignments ++ featuresOfBody body)
  | .autoescape enabled body =>
    .statement "autoescape" :: (enabled.features ++ featuresOfBody body)
  | .block _ body => .statement "block" :: featuresOfBody body
  | .extending parent => .statement "extends" :: parent.features
  | .including source _ => .statement "include" :: source.features
  | .importing source target => .statement "import" :: (source.features ++ target.features)
  | .importingFrom source _ => .statement "from" :: source.features
  | .procedure _ _ defaults body =>
    .statement "macro" :: (featuresOfItems defaults ++ featuresOfBody body)
  | .callBlock _ defaults call body =>
    .statement "call" :: (featuresOfItems defaults ++ call.features ++ featuresOfBody body)
  | .perform call => .statement "do" :: call.features

def featuresOfBody : List Stmt → List Feature
  | [] => []
  | stmt :: rest => stmt.features ++ featuresOfBody rest

end

/-- The rest of a name with points, of which the first part is known. -/
def dottedFrom (name : String) : List Token → String
  | .symbol .dot :: .name part :: words => dottedFrom (name ++ "." ++ part) words
  | _ => name

/-- The filter that is named at the start of some tokens. -/
def filterShown : List Token → List Feature
  | .name first :: words => [.filter (dottedFrom first words)]
  | _ => []

/-- The words that a statement may begin with, except the one for filters. -/
def openingWords : List String :=
  ["for", "if", "set", "with", "autoescape", "block", "extends", "include", "import", "from",
    "macro", "call", "do"]

/-- What the first word of a tag shows. A further branch is a condition of its
    own. -/
def tagShown (word : String) (words : List Token) : List Feature :=
  if word = "filter" then .statement "filter" :: filterShown words
  else if word = "elif" then [.statement "if"]
  else if word ∈ openingWords then [.statement word] else []

/-- What a token shows together with those after it. -/
def shownAt : Token → List Token → List Feature
  | .symbol .pipe, words => filterShown words
  | .tagStart, .name word :: words => tagShown word words
  | _, _ => []

/-- The features that some tokens show: the names after bars, the first words of
    tags and the names after the word for filters. -/
def shownIn : List Token → List Feature
  | [] => []
  | token :: words => shownAt token words ++ shownIn words

theorem featuresOfItems_eq_flatMap (items : List Expr) :
    featuresOfItems items = items.flatMap Expr.features := by
  induction items with
  | nil => rfl
  | cons item items ih => rw [featuresOfItems, ih, List.flatMap_cons]

theorem featuresOfEntries_eq_flatMap (entries : List (Expr × Expr)) :
    featuresOfEntries entries =
      entries.flatMap fun entry => entry.1.features ++ entry.2.features := by
  induction entries with
  | nil => rfl
  | cons entry entries ih => rw [featuresOfEntries, ih, List.flatMap_cons]

theorem featuresOfOperands_eq_flatMap (operands : List (CompareOp × Expr)) :
    featuresOfOperands operands = operands.flatMap (·.2.features) := by
  induction operands with
  | nil => rfl
  | cons operand operands ih => rw [featuresOfOperands, ih, List.flatMap_cons]

theorem featuresOfArguments_eq_flatMap (arguments : List Argument) :
    featuresOfArguments arguments = arguments.flatMap Argument.features := by
  induction arguments with
  | nil => rfl
  | cons argument arguments ih => rw [featuresOfArguments, ih, List.flatMap_cons]

theorem featuresOfBody_eq_flatMap (body : List Stmt) :
    featuresOfBody body = body.flatMap Stmt.features := by
  induction body with
  | nil => rfl
  | cons stmt body ih => rw [featuresOfBody, ih, List.flatMap_cons]

/-- Signs in front of an expression show nothing. -/
theorem features_repeat {f : Expr → Expr} (hf : ∀ operand, (f operand).features = operand.features)
    (n : Nat) (operand : Expr) : (Nat.repeat f n operand).features = operand.features := by
  induction n with
  | zero => rfl
  | succ n ih => rw [Nat.repeat, hf, ih]

end PromptPacks.Template
