import PromptPacks.Json.Value

namespace PromptPacks.Json

def string? : Json → Option String
  | .string s => some s
  | _ => none

def bool? : Json → Option Bool
  | .bool b => some b
  | _ => none

/-- The number of a document that is a whole number between two bounds, ends
    included. -/
def integer? (low high : Int) : Json → Option Int
  | .integer n => if low ≤ n && n ≤ high then some n else none
  | _ => none

/-- The items of a document that is an array, each of them read. -/
def items? (read : Json → Option α) : Json → Option (List α)
  | .array items => items.mapM read
  | _ => none

def fields? : Json → Option (List (String × Json))
  | .object fields => some fields
  | _ => none

/-- A document that may be `null` for an absent value. -/
def optional? (read : Json → Option α) : Json → Option (Option α)
  | .null => some none
  | document => (read document).map some

end PromptPacks.Json
