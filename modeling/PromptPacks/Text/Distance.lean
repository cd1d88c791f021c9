namespace PromptPacks.Text

/-- The rest of a row of distances, for one more character `c` of the first
    text. The distances before `b` are `diagonal` in the row above and `left` in
    this row; `above` holds the others of the row above. -/
def nextDistances (c : Char) : List Char → Nat → Nat → List Nat → List Nat
  | b :: bs, diagonal, left, up :: above =>
    let here := min (min (up + 1) (left + 1)) (diagonal + if c = b then 0 else 1)
    here :: nextDistances c bs up here above
  | _, _, _, _ => []

/-- The row of distances from a text to each start of `b`, for a text that is
    longer by one character than the one of the row above. -/
def nextRow (b : List Char) (row : List Nat) (c : Char) : List Nat :=
  match row with
  | [] => []
  | first :: above => (first + 1) :: nextDistances c b first (first + 1) above

/-- The least number of characters to insert, delete or replace to make `b` out
    of `a`. One row of distances at a time is kept. -/
def distance (a b : List Char) : Nat :=
  (a.foldl (nextRow b) (List.range (b.length + 1))).getLastD 0

/-- The greatest distance at which a name is still offered for another one. -/
def maxSuggestionDistance : Nat := 2

/-- Whether a candidate may be meant by a name: it is another name, at a
    distance that is small and below the length of the name, so that some part
    of the name remains. -/
def isPlausible (name candidate : String) : Bool :=
  let d := distance name.toList candidate.toList
  candidate != name && d ≤ maxSuggestionDistance && d < name.length

/-- Whether a candidate is offered rather than another one: it is nearer, or
    equally near and before it in order. -/
def isPreferred (name candidate other : String) : Bool :=
  let d := distance name.toList candidate.toList
  let e := distance name.toList other.toList
  d < e || (d == e && candidate < other)

/-- The better of a candidate and the best one so far. -/
def preferred (name : String) (best : Option String) (candidate : String) : Option String :=
  match best with
  | some other => if isPreferred name candidate other then some candidate else some other
  | none => some candidate

/-- The candidate that is most likely meant by a name, if any is plausible. -/
def closest? (name : String) (candidates : List String) : Option String :=
  (candidates.filter (isPlausible name)).foldl (preferred name) none

end PromptPacks.Text
