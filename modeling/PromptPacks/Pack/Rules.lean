import PromptPacks.Refusal
import PromptPacks.Text.Blank

namespace PromptPacks

open PromptPacks.Text

def defaultPackName : String := "Default"

def defaultPackDescription : String := "Shipped templates and variables."

/-- Accepts the name of a pack: it is not blank and not too long. Lengths count
    characters. -/
def checkPackName (name : String) : Except Refusal Unit :=
  if isBlankText name then .error (.violation .blankPackName)
  else if maxPackName < name.length then .error (.violation (.packNameTooLong name.length))
  else .ok ()

/-- Accepts an optional text of a pack, like its description, if it is not too
    long. -/
def checkFreeText (field : String) (value : Option String) : Except Refusal Unit :=
  match value with
  | some text =>
    if maxFreeText < text.length then .error (.violation (.freeTextTooLong field text.length))
    else .ok ()
  | none => .ok ()

/-- Whether a template of a pack is still that of the default pack. -/
inductive TemplateStatus where
  | unmodified
  | modified
deriving DecidableEq, Repr

def TemplateStatus.label : TemplateStatus → String
  | .unmodified => "unmodified"
  | .modified => "modified"

/-- The status of a template by its hash and that of the default pack. A
    template that the default pack lacks counts as modified. -/
def TemplateStatus.ofHashes (hash : String) (defaultHash : Option String) : TemplateStatus :=
  if defaultHash = some hash then .unmodified else .modified

def numberedName (base : String) (n : Nat) : String :=
  s!"{base} ({n})"

/-- The first free one of some numbered names. As many candidates as there are
    names in use, and one more, always contain a free one. -/
def freeNumbered (base : String) (existing : List String) : Nat → Nat → String
  | n, 0 => numberedName base n
  | n, more + 1 =>
    if existing.contains (numberedName base n) then freeNumbered base existing (n + 1) more
    else numberedName base n

/-- A name that is not in use: the given one if it is free, or else the same
    with the least number from two on that makes it free. -/
def uniqueName (base : String) (existing : List String) : String :=
  if existing.contains base then freeNumbered base existing 2 existing.length else base

end PromptPacks
