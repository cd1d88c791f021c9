import PromptPacks.Context.Value
import PromptPacks.Number.FloatArithmetic
import PromptPacks.Number.FloatText
import PromptPacks.Template.Tree
import PromptPacks.Text.Quoted

namespace PromptPacks.Template

open PromptPacks.Number PromptPacks.Text

/-- A value while a template is rendered. -/
inductive Value where
  /-- What a name or a property without a value stands for. -/
  | undefined
  | null
  | bool (b : Bool)
  | integer (n : Int)
  | float (x : Float)
  | text (s : String)
  | list (items : List Value)
  /-- A map, with its entries in ascending order of the keys. -/
  | map (entries : List (Value × Value))
  /-- The function that makes lists of numbers. -/
  | range
  /-- A round of a loop. The level tells the loops around it from each other. -/
  | loop (level index length depth : Nat) (previous next : Value)
deriving Inhabited

namespace Value

mutual

/-- The value that a given value stands for in a template. -/
def ofContext : ContextValue → Value
  | .bool b => .bool b
  | .integer n => .integer n
  | .number x => .float x
  | .text s => .text s
  | .list items => .list (ofContextItems items)

/-- The values that the items of a given list stand for. -/
def ofContextItems : List ContextValue → List Value
  | [] => []
  | item :: rest => ofContext item :: ofContextItems rest

end

def ofLiteral : Literal → Value
  | .none => .null
  | .bool b => .bool b
  | .integer n => .integer n
  | .float x => .float x
  | .text s => .text s

def ofChars (cs : List Char) : Value :=
  .text (String.ofList cs)

def isTrue : Value → Bool
  | .undefined | .null => false
  | .bool b => b
  | .integer n => n != 0
  | .float x => x != 0.0
  | .text s => !s.isEmpty
  | .list items => !items.isEmpty
  | .map entries => !entries.isEmpty
  | .range | .loop .. => true

def separated (texts : List (List Char)) : List Char :=
  List.intercalate [',', ' '] texts

mutual

/-- How a value is shown inside a list or a map: texts stand in quotes. -/
def shown : Value → List Char
  | .undefined => "undefined".toList
  | .null => "None".toList
  | .bool b => if b then "True".toList else "False".toList
  | .integer n => (toString n).toList
  | .float x => floatText .listed x
  | .text s => quoted s.toList
  | .list items => '[' :: separated (shownItems items) ++ [']']
  | .map entries => '\x7b' :: separated (shownEntries entries) ++ ['\x7d']
  | .range => "range".toList
  | .loop _ index length .. => s!"<loop {index}/{length}>".toList

def shownItems : List Value → List (List Char)
  | [] => []
  | item :: rest => item.shown :: shownItems rest

def shownEntries : List (Value × Value) → List (List Char)
  | [] => []
  | (key, value) :: rest => (key.shown ++ ':' :: ' ' :: value.shown) :: shownEntries rest

end

def printed : Value → List Char
  | .undefined => []
  | .text s => s.toList
  | .float x => floatText .plain x
  | value => value.shown

/-- The kinds of values. -/
inductive Kind where
  | undefined
  | null
  | bool
  | number
  | text
  | list
  | map
  | other
deriving DecidableEq, Repr

/-- The place of a kind in the order of values: those of different kinds are
    ordered by it. -/
def Kind.rank : Kind → Nat
  | .undefined => 0
  | .null => 1
  | .bool => 2
  | .number => 3
  | .text => 4
  | .list => 5
  | .map => 6
  | .other => 7

def kind : Value → Kind
  | .undefined => .undefined
  | .null => .null
  | .bool _ => .bool
  | .integer _ | .float _ => .number
  | .text _ => .text
  | .list _ => .list
  | .map _ => .map
  | .range | .loop .. => .other

/-- Two numbers of one kind. -/
inductive NumberPair where
  | integers (a b : Int)
  | floats (a b : Float)

def asInt? : Value → Option Int
  | .bool b => some (if b then 1 else 0)
  | .integer n => some n
  | _ => none

def asExactFloat? : Value → Option Float
  | .float x => some x
  | value => value.asInt?.bind exactFloat?

/-- Two values as equal or different numbers, without any rounding. -/
def exactPair? : Value → Value → Option NumberPair
  | .float a, right => right.asExactFloat?.map (.floats a)
  | left, .float b => left.asExactFloat?.map (.floats · b)
  | left, right =>
    match left.asInt?, right.asInt? with
    | some a, some b => some (.integers a b)
    | _, _ => none

mutual

/-- The order of values. Lists are compared item by item, maps entry by entry,
    and doubles by their keys, so that it is total. -/
def order : Value → Value → Ordering
  | .text a, .text b => compare a b
  | .list items, .list others => orderItems items others
  | .map entries, .map others => orderEntries entries others
  | left, right =>
    if left.kind = right.kind then
      match exactPair? left right with
      | some (.integers a b) => compare a b
      | some (.floats a b) => compare (orderKey a) (orderKey b)
      | none => .eq
    else compare left.kind.rank right.kind.rank

def orderItems : List Value → List Value → Ordering
  | [], [] => .eq
  | [], _ :: _ => .lt
  | _ :: _, [] => .gt
  | a :: rest, b :: others => (a.order b).then (orderItems rest others)

def orderEntries : List (Value × Value) → List (Value × Value) → Ordering
  | [], [] => .eq
  | [], _ :: _ => .lt
  | _ :: _, [] => .gt
  | (key, value) :: rest, (otherKey, otherValue) :: others =>
    ((key.order otherKey).then (value.order otherValue)).then (orderEntries rest others)

end

def lookup? (key : Value) (entries : List (Value × Value)) : Option Value :=
  (entries.find? fun entry => entry.1.order key == .eq).map (·.2)

mutual

/-- Whether two values are equal. Numbers and truth values are equal when their
    exact values are. -/
def isEqual : Value → Value → Bool
  | .undefined, .undefined => true
  | .null, .null => true
  | .text a, .text b => a == b
  | .list items, .list others => areEqual items others
  | .map entries, .map others =>
    entries.length == others.length && haveEqual entries others
  | .range, .range => true
  | .loop level .., .loop other .. => level == other
  | left, right =>
    match exactPair? left right with
    | some (.integers a b) => a == b
    | some (.floats a b) => a == b
    | none => false

def areEqual : List Value → List Value → Bool
  | [], [] => true
  | a :: rest, b :: others => a.isEqual b && areEqual rest others
  | _, _ => false

/-- Whether another map has equal values under the same keys. -/
def haveEqual : List (Value × Value) → List (Value × Value) → Bool
  | [], _ => true
  | (key, value) :: rest, others =>
    (match lookup? key others with
    | some other => value.isEqual other
    | none => false) && haveEqual rest others

end

/-- Puts an entry into a map. An equal key stays and gets the new value. -/
def putEntry (key value : Value) : List (Value × Value) → List (Value × Value)
  | [] => [(key, value)]
  | entry :: rest =>
    match key.order entry.1 with
    | .lt => (key, value) :: entry :: rest
    | .eq => (entry.1, value) :: rest
    | .gt => entry :: putEntry key value rest

def mapOf (entries : List (Value × Value)) : Value :=
  .map (entries.foldl (fun sorted entry => putEntry entry.1 entry.2 sorted) [])

end Value

end PromptPacks.Template
