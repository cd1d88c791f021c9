namespace PromptPacks

/-- A JSON document. Whole numbers and floating-point numbers are kept apart, as
    they are written apart, and the fields of an object keep their order. -/
inductive Json where
  | null
  | bool (b : Bool)
  | integer (n : Int)
  | float (x : Float)
  | string (s : String)
  | array (items : List Json)
  | object (fields : List (String × Json))
deriving Inhabited

namespace Json

mutual

/-- How many arrays and objects stand inside each other at most. -/
def depth : Json → Nat
  | .array items => depthOfItems items + 1
  | .object fields => depthOfFields fields + 1
  | _ => 0

/-- The greatest depth among the items of an array. -/
def depthOfItems : List Json → Nat
  | [] => 0
  | item :: rest => max item.depth (depthOfItems rest)

/-- The greatest depth among the fields of an object. -/
def depthOfFields : List (String × Json) → Nat
  | [] => 0
  | (_, value) :: rest => max value.depth (depthOfFields rest)

end

/-- The field of an object with a given name. Where a name occurs more than once
    its last occurrence counts. -/
def field? (fields : List (String × Json)) (name : String) : Option Json :=
  (fields.reverse.find? (·.1 == name)).map (·.2)

/-- The value of a field, `null` when there is none. -/
def field (fields : List (String × Json)) (name : String) : Json :=
  (field? fields name).getD .null

/-- The names of the fields of an object in the order of their first
    occurrences, each with the value that counts. -/
def distinctFields (fields : List (String × Json)) : List (String × Json) :=
  ((fields.map (·.1)).eraseDups).map fun name => (name, field fields name)

/-- The document for an optional value, `null` when it is absent. -/
def ofOption (encode : α → Json) : Option α → Json
  | some a => encode a
  | none => .null

end Json

end PromptPacks
