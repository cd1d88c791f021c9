import PromptPacks.Text.CodeRange
import PromptPacks.Text.WordTable

namespace PromptPacks.Text

/-- A letter or the underscore, of ASCII only: what a name may start with. -/
def isNameStart (c : Char) : Bool :=
  c.isAlpha || c == '_'

/-- A letter, a digit or the underscore, of ASCII only: what a name may go on
    with. -/
def isNameChar (c : Char) : Bool :=
  c.isAlphanum || c == '_'

/-- A word character of any script. The end of a word is where such a character
    meets another one or the end of the text. -/
def isWordChar (c : Char) : Bool :=
  isNameChar c || (0x7F < c.toNat && inRanges wordRanges c)

theorem isWordChar_of_isNameChar {c : Char} (hname : isNameChar c = true) :
    isWordChar c = true := by
  simp [isWordChar, hname]

/-- The name that a text starts with, if it starts with one. -/
def leadingName (cs : List Char) : Option (List Char) :=
  match cs with
  | [] => none
  | c :: rest => if isNameStart c then some (c :: rest.takeWhile isNameChar) else none

end PromptPacks.Text
