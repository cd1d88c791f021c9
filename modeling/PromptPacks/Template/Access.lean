import PromptPacks.Template.Value
import PromptPacks.Text.Search

namespace PromptPacks.Template.Value

open PromptPacks.Number PromptPacks.Text

/-- The whole number that a value counts as: truth values count as zero and one,
    and doubles without a fraction as what they are equal to. -/
def asWhole? : Value → Option Int
  | .float x => toInt? x
  | value => value.asInt?

/-- The whole number that a value counts as, if it lies between two bounds, ends
    included. -/
def asWholeBetween? (low high : Int) (value : Value) : Option Int :=
  value.asWhole?.filter fun n => low ≤ n && n ≤ high

/-- The number of times or characters that a value counts as. -/
def asCount? (value : Value) : Option Nat :=
  (value.asWholeBetween? 0 maxUnsigned64).map Int.toNat

/-- The offset that a value counts as. Negative ones count from the end. -/
def asOffset? (value : Value) : Option Int :=
  value.asWholeBetween? minInt64 maxInt64

def ofChar (c : Char) : Value :=
  .text (String.singleton c)

/-- What a loop goes over: the items of a list, the keys of a map or the
    characters of a text. -/
def items? : Value → Option (List Value)
  | .undefined | .null => some []
  | .text s => some (s.toList.map ofChar)
  | .list items => some items
  | .map entries => some (entries.map (·.1))
  | _ => none

def length? : Value → Option Nat
  | .text s => some s.length
  | .list items => some items.length
  | .map entries => some entries.length
  | _ => none

def loopProperty (index length depth : Nat) (previous next : Value) (name : String) : Value :=
  match name with
  | "index0" => .integer index
  | "index" => .integer (index + 1)
  | "length" => .integer length
  | "revindex" => .integer (length - index : Nat)
  | "revindex0" => .integer (length - index - 1 : Nat)
  | "first" => .bool (index == 0)
  | "last" => .bool (index + 1 == length)
  | "depth" => .integer (depth + 1)
  | "depth0" => .integer depth
  | "previtem" => previous
  | "nextitem" => next
  | _ => .undefined

/-- A property of a value. What has no such property gives the undefined value. -/
def property (name : String) : Value → Value
  | .map entries => (lookup? (.text name) entries).getD .undefined
  | .loop _ index length depth previous next =>
    loopProperty index length depth previous next name
  | _ => .undefined

/-- The item at an offset, where a negative one counts from the end. -/
def itemAt? (items : List α) (offset : Int) : Option α :=
  if offset < 0 then
    if offset.natAbs ≤ items.length then items[items.length - offset.natAbs]? else none
  else items[offset.toNat]?

/-- The item of a value under an index or a key. What is not there is
    undefined. -/
def item (value index : Value) : Value :=
  match value with
  | .map entries => (lookup? index entries).getD .undefined
  | .list items => (index.asOffset?.bind (itemAt? items)).getD .undefined
  | .text s => ((index.asOffset?.bind (itemAt? s.toList)).map ofChar).getD .undefined
  | .loop .. =>
    match index with
    | .text name => value.property name
    | _ => .undefined
  | _ => .undefined

/-- An offset as a bound of a slice: negative ones count from the end, and all
    are cut to lie between two bounds. -/
def sliceOffset (low high length offset : Int) : Int :=
  max low (min high (if offset < 0 then offset + length else offset))

/-- Where a slice of a list of the given length starts and stops. -/
def sliceEnds (length : Nat) (start stop : Option Int) (step : Int) : Int × Int :=
  if 0 < step then
    ((start.map (sliceOffset 0 length length)).getD 0,
      (stop.map (sliceOffset 0 length length)).getD length)
  else
    ((start.map (sliceOffset (-1) (length - 1) length)).getD (length - 1),
      (stop.map (sliceOffset (-1) (length - 1) length)).getD (-1))

/-- The number of steps from a start before a stop is reached. -/
def stepCount (start stop step : Int) : Nat :=
  if 0 < step then ((stop - start + step - 1) / step).toNat
  else ((start - stop - step - 1) / (-step)).toNat

/-- The numbers from a start on up to a stop, which is left out. -/
def steps (start stop step : Int) : List Int :=
  (List.range (stepCount start stop step)).map fun (n : Nat) => start + n * step

def sliceItems (items : List α) (start stop : Option Int) (step : Int) : List α :=
  let (first, last) := sliceEnds items.length start stop step
  (steps first last step).filterMap fun offset => items[offset.toNat]?

def sliceBound? : Value → Option (Option Int)
  | .null => some none
  | value => value.asOffset?.map some

/-- A slice of a value. Nothing can be cut out of numbers and maps, and no step
    is zero. -/
def slice? (value start stop step : Value) : Option Value :=
  match sliceBound? start, sliceBound? stop, sliceBound? step with
  | some start, some stop, some step =>
    let step := step.getD 1
    if step = 0 then none
    else
      match value with
      | .undefined | .null => some (.list [])
      | .text s => some (ofChars (sliceItems s.toList start stop step))
      | .list items => some (.list (sliceItems items start stop step))
      | _ => none
  | _, _, _ => none

/-- Whether a value is an item, a key or a part of another one. Nothing is in
    the undefined value. -/
def isIn? (value container : Value) : Option Bool :=
  match container with
  | .undefined | .range | .loop .. => some false
  | .text s => some (occursIn value.printed s.toList)
  | .list items => some (items.any (·.isEqual value))
  | .map entries => some (lookup? value entries).isSome
  | _ => none

end PromptPacks.Template.Value
