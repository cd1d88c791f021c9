import PromptPacks.Template.Access

namespace PromptPacks.Template

open PromptPacks.Number PromptPacks.Text

/-- The arguments of a call. Named arguments are kept in the order of a map, if
    there are any. -/
structure Arguments where
  positional : List Value
  named : Option (List (Value × Value))

namespace Arguments

/-- The positional arguments. Where no names are asked for, the named arguments
    together are one more argument, which is a map. -/
def values (arguments : Arguments) : List Value :=
  arguments.positional ++ (arguments.named.map Value.map).toList

/-- Named arguments in front of others. Of those with one name the last counts. -/
def withNamed (entries : List (Value × Value)) (arguments : Arguments) : Arguments :=
  let later := arguments.named.getD []
  { arguments with
    named := some (later.foldl (fun all entry => Value.putEntry entry.1 entry.2 all) entries) }

/-- An argument that may be left out, or be undefined or null in place of that. -/
def optional? (read : Value → Option α) : List Value → Option (Option α)
  | [] => some none
  | .undefined :: _ | .null :: _ => some none
  | value :: _ => (read value).map some

def asBool? : Value → Option Bool
  | .bool b => some b
  | _ => none

def asText? : Value → Option String
  | .text s => some s
  | _ => none

/-- Whether every named argument has one of the given names. -/
def areNamed (arguments : Arguments) (names : List String) : Bool :=
  (arguments.named.getD []).all fun entry =>
    match entry.1 with
    | .text name => names.contains name
    | _ => false

def named? (arguments : Arguments) (name : String) (read : Value → Option α) :
    Option (Option α) :=
  optional? read ((Value.lookup? (.text name) (arguments.named.getD [])).toList)

/-- An argument that may be given by its position or by its name, but not in
    both ways. -/
def either? (arguments : Arguments) (position : Nat) (name : String) (read : Value → Option α) :
    Option (Option α) :=
  match arguments.positional.drop position with
  | [] => arguments.named? name read
  | value :: _ =>
    if (Value.lookup? (.text name) (arguments.named.getD [])).isSome then none
    else optional? read [value]

end Arguments

end PromptPacks.Template
