import PromptPacks.Template.Arguments
import PromptPacks.Template.Operator
import PromptPacks.Text.Casing

namespace PromptPacks.Template

open PromptPacks.Number PromptPacks.Text

namespace Filter

def known : List String :=
  ["abs", "capitalize", "default", "first", "float", "indent", "int", "join", "last", "length",
    "list", "lower", "replace", "reverse", "round", "sort", "title", "trim", "unique", "upper",
    "bullets", "truncate", "wordcount"]

/-- A filter that only reads the printed form of a value. -/
def onText (transform : List Char → List Char) (arguments : List Value) (value : Value) :
    Option Value :=
  if arguments.isEmpty then some (.ofChars (transform value.printed)) else none

/-- Drops the given characters at both ends of a text, or white space where none
    are given. -/
def trimmedBy (characters : Option Value) (cs : List Char) : List Char :=
  match characters with
  | none => trim cs
  | some characters =>
    let isDropped := characters.printed.contains
    dropEndWhile isDropped (cs.dropWhile isDropped)

def dropReturn (cs : List Char) : List Char :=
  if cs.getLast? == some '\r' then cs.dropLast else cs

/-- Drops a line feed at the end of a text, and then a carriage return. -/
def dropLineEnd (cs : List Char) : List Char :=
  dropReturn (if cs.getLast? == some '\n' then cs.dropLast else cs)

/-- The lines of a text with spaces before them. The first line gets spaces only
    if `first` holds, lines without characters get them only if `blank` holds.
    The line end at the end is dropped. -/
def indented (width : Nat) (first blank : Bool) (cs : List Char) : List Char :=
  let indent (line : List Char) :=
    if line.isEmpty && !blank then line else List.replicate width ' ' ++ line
  match (dropLineEnd cs).splitOn '\n' with
  | [] => []
  | line :: rest =>
    let opening := if first then indent line else line
    dropReturn (List.intercalate ['\n'] (opening :: rest.map indent))

def firstOf : Value → Option Value
  | .text s => some ((s.toList.head?.map Value.ofChar).getD .undefined)
  | .list items => some (items.head?.getD .undefined)
  | .map entries => some ((entries.head?.map (·.1)).getD .undefined)
  | _ => none

def lastOf : Value → Option Value
  | .text s => some ((s.toList.getLast?.map Value.ofChar).getD .undefined)
  | .list items => some (items.getLast?.getD .undefined)
  | _ => none

def reversed : Value → Option Value
  | .undefined => some .undefined
  | .null => some .null
  | .text s => some (.ofChars s.toList.reverse)
  | .list items => some (.list items.reverse)
  | .map entries => some (.list (entries.map (·.1)).reverse)
  | _ => none

/-- The value that a path of properties and indices leads to. Nothing leads on
    from the undefined value. -/
def follow? (value : Value) (path : List (List Char)) : Option Value :=
  path.foldlM (fun value part =>
    match value with
    | .undefined => none
    | value =>
      match readDigits? 10 part with
      | some index => some (value.item (.integer index))
      | none => some (value.property (String.ofList part))) value

def folded (fold : List Char → List Char) : Value → Value
  | .text s => .ofChars (fold s.toList)
  | value => value

/-- The order of two items under the settings of a sort. -/
def sortOrder (caseSensitive : Bool) (path : Option String) (a b : Value) : Ordering :=
  let fold := if caseSensitive then id else folded asciiLower
  match path with
  | none => (fold a).order (fold b)
  | some path =>
    match follow? a (path.toList.splitOn '.'), follow? b (path.toList.splitOn '.') with
    | some a, some b => (fold a).order (fold b)
    | _, _ => .eq

/-- The items of a value in ascending or, if asked for, descending order. Equal
    items keep their order. -/
def sorted (arguments : Arguments) (value : Value) : Option Value := do
  let items ← value.items?
  let caseSensitive ← arguments.named? "case_sensitive" Arguments.asBool?
  let path ← arguments.named? "attribute" Arguments.asText?
  let descending ← arguments.named? "reverse" Arguments.asBool?
  if arguments.positional.isEmpty && arguments.areNamed ["case_sensitive", "attribute", "reverse"]
  then
    let order := sortOrder (caseSensitive.getD false) path
    let before := fun a b =>
      if descending.getD false then order b a != .gt else order a b != .gt
    some (.list (items.mergeSort before))
  else none

/-- Keeps the first of all items with the same key. -/
def firstByKey (key : Value → Value) (seen : List Value) : List Value → List Value
  | [] => []
  | item :: rest =>
    if seen.any fun other => other.order (key item) == .eq then firstByKey key seen rest
    else item :: firstByKey key (key item :: seen) rest

def distinct (arguments : Arguments) (value : Value) : Option Value := do
  let items ← value.items?
  let caseSensitive ← arguments.named? "case_sensitive" Arguments.asBool?
  let path ← arguments.named? "attribute" Arguments.asText?
  if arguments.positional.isEmpty && arguments.areNamed ["case_sensitive", "attribute"] then
    let fold := if caseSensitive.getD false then id else folded lower
    let key := fun item =>
      match path with
      | none => fold item
      | some path => fold ((follow? item (path.toList.splitOn '.')).getD .undefined)
    some (.list (firstByKey key [] items))
  else none

/-- The items of a value in one text, with a text between them. -/
def joined (separator : List Char) (value : Value) : Option Value :=
  value.items?.map fun items => .ofChars (List.intercalate separator (items.map Value.printed))

/-- A value, or another one in place of the undefined value and, if asked for,
    of every value that does not count as true. -/
def orElse (replacement : Value) (anyFalse : Bool) (value : Value) : Value :=
  match value with
  | .undefined => replacement
  | value => if anyFalse && !value.isTrue then replacement else value

def magnitude? : Value → Option Value
  | .integer n => if n = Value.minInt128 then none else some (.integer n.natAbs)
  | .float x => some (.float (Float.abs x))
  | _ => none

/-- A number rounded to decimal places. Integers stay what they are. -/
def rounded? (places : Int) : Value → Option Value
  | .integer n => some (.integer n)
  | .float x => some (.float (roundPlaces x places))
  | _ => none

/-- The integer part of a double, at most as great as 128 bits allow. -/
def wholePart (x : Float) : Int :=
  if x.isNaN then 0
  else
    match integerPart? x with
    | some n => max Value.minInt128 (min Value.maxInt128 n)
    | none => if x < 0.0 then Value.minInt128 else Value.maxInt128

/-- A value as an integer. Texts are read as numbers. -/
def toInteger? : Value → Option Value
  | .undefined | .null => some (.integer 0)
  | .bool b => some (.integer (if b then 1 else 0))
  | .integer n => some (.integer n)
  | .float x => some (.integer (wholePart x))
  | .text s =>
    match readIntBetween? Value.minInt128 Value.maxInt128 s.toList with
    | some n => some (.integer n)
    | none => (readFloat? s.toList).map fun x => .integer (wholePart x)
  | _ => none

/-- A value as a double. Texts are read as numbers. -/
def toDouble? : Value → Option Value
  | .undefined | .null => some (.float 0.0)
  | .bool b => some (.float (if b then 1.0 else 0.0))
  | .integer n => some (.float (floatOfInt n))
  | .float x => some (.float x)
  | .text s => (readFloat? s.toList).map .float
  | _ => none

/-- One line with a dash for each item of a value. A text is one item. -/
def bullets? : Value → Option Value
  | .undefined | .null => some (.text "")
  | .text s => some (.ofChars ('-' :: ' ' :: s.toList))
  | value => value.items?.map fun items =>
    .ofChars (List.intercalate ['\n'] (items.map fun item => '-' :: ' ' :: item.printed))

/-- The greatest length of a shortened text where none is given. -/
def defaultLength : Nat := 255

/-- A text of at most the given length as it is. A longer one loses its end and
    the white space before it, and three points show the cut; they count for the
    length where it allows them. -/
def truncated (length : Nat) (cs : List Char) : List Char :=
  if cs.length ≤ length then cs
  else trimEnd (cs.take (length - 3)) ++ ['.', '.', '.']

def shortened (length : Option Nat) : Value → Value
  | .undefined | .null => .text ""
  | value => .ofChars (truncated (length.getD defaultLength) value.printed)

/-- The number of words in the printed form of a value. -/
def wordCount : Value → Value
  | .undefined | .null => .integer 0
  | value => .integer (countWords false value.printed)

/-- The result of a filter. There is none for an unknown filter, and for
    arguments or values that it does not take. -/
def result? (name : String) (arguments : Arguments) (value : Value) : Option Value :=
  let values := arguments.values
  match name with
  | "upper" => onText upper values value
  | "lower" => onText lower values value
  | "capitalize" => onText capitalize values value
  | "title" => onText (title true) values value
  | "trim" =>
    if values.length ≤ 1 then
      (Arguments.optional? some values).map fun characters =>
        .ofChars (trimmedBy characters value.printed)
    else none
  | "replace" =>
    match values with
    | [pattern, replacement] =>
      some (.ofChars (replaceIn pattern.printed replacement.printed 0 value.printed))
    | _ => none
  | "indent" => do
    let width ← arguments.either? 0 "width" Value.asCount?
    let first ← arguments.either? 1 "first" Arguments.asBool?
    let blank ← arguments.either? 2 "blank" Arguments.asBool?
    if arguments.positional.length ≤ 3 && arguments.areNamed ["width", "first", "blank"] then
      some (.ofChars
        (indented (width.getD 4) (first.getD false) (blank.getD false) value.printed))
    else none
  | "length" => if values.isEmpty then value.length?.map fun n => .integer n else none
  | "first" => if values.isEmpty then firstOf value else none
  | "last" => if values.isEmpty then lastOf value else none
  | "reverse" => if values.isEmpty then reversed value else none
  | "sort" => sorted arguments value
  | "unique" => distinct arguments value
  | "list" => if values.isEmpty then value.items?.map .list else none
  | "join" =>
    if values.length ≤ 1 then do
      let separator ← Arguments.optional? some values
      joined ((separator.map Value.printed).getD []) value
    else none
  | "default" =>
    if values.length ≤ 2 then do
      let replacement ← Arguments.optional? some values
      let anyFalse ← Arguments.optional? some (values.drop 1)
      some (orElse (replacement.getD (.text "")) ((anyFalse.map Value.isTrue).getD false) value)
    else none
  | "abs" => if values.isEmpty then magnitude? value else none
  | "round" =>
    if values.length ≤ 1 then do
      let places ← Arguments.optional? (Value.asWholeBetween? (-2147483648) 2147483647) values
      rounded? (places.getD 0) value
    else none
  | "int" => if values.isEmpty then toInteger? value else none
  | "float" => if values.isEmpty then toDouble? value else none
  | "bullets" => if values.isEmpty then bullets? value else none
  | "truncate" =>
    if values.length ≤ 1 then do
      let length ← Arguments.optional? Value.asCount? values
      some (shortened length value)
    else none
  | "wordcount" => if values.isEmpty then some (wordCount value) else none
  | _ => none

end Filter

end PromptPacks.Template
