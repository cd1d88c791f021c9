import PromptPacks.Template.Masking
import PromptPacks.Text.Word

namespace PromptPacks.Template

open PromptPacks.Text

/-- The second spelling of the word for a further branch. -/
def longSpelling : List Char := "elsif".toList

/-- The usual spelling of the word for a further branch, as long as the second
    one. -/
def usualSpelling : List Char := "elif ".toList

/-- A tag at the start of a text that has the second spelling: its characters up
    to the end of the word, with the usual spelling in place of the second one. -/
def respelled? (cs : List Char) : Option (List Char) := do
  let inside ← after? tagOpening cs
  let word := (dropSign inside).dropWhile isBlank
  let behind ← after? longSpelling word
  if (behind.head?.map isWordChar).getD false then none
  else some (cs.take (cs.length - word.length) ++ usualSpelling)

/-- Gives every further branch the usual spelling; `pending` holds what replaces
    the next characters. -/
def respellFrom : List Char → List Char → List Char
  | _, [] => []
  | replacement :: pending, _ :: rest => replacement :: respellFrom pending rest
  | [], c :: rest =>
    match respelled? (c :: rest) with
    | some (replacement :: pending) => replacement :: respellFrom pending rest
    | _ => c :: respellFrom [] rest

/-- A template in which every further branch has the usual spelling. All other
    characters keep their places. -/
def respell (source : List Char) : List Char :=
  respellFrom [] source

end PromptPacks.Template
