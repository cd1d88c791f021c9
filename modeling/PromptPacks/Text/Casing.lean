import PromptPacks.Text.Blank
import PromptPacks.Text.CasingTable

namespace PromptPacks.Text

/-- The counterpart of a character in the table of one case, or the character
    itself. -/
def counterpart (runs : Array CaseRun) (c : Char) : Char :=
  match runs.find? (·.characters.contains c) with
  | some run => Char.ofNat (c.toNat + run.distance).toNat
  | none => c

/-- The lower-case form of one character. Only the capital I with a dot needs
    two characters. -/
def lowerChar (c : Char) : List Char :=
  if c.toNat ≤ 0x7F then [c.toLower]
  else if c.toNat == 0x130 then ['i', Char.ofNat 0x307]
  else [counterpart lowerRuns c]

/-- The upper-case form of one character; ligatures and some accented letters
    need several. -/
def upperChar (c : Char) : List Char :=
  if c.toNat ≤ 0x7F then [c.toUpper]
  else match upperExpansions.find? (·.1 == c.toNat) with
    | some expansion => expansion.2.map Char.ofNat
    | none => [counterpart upperRuns c]

/-- Whether the first character that is not skipped has a case. -/
def meetsCased (cs : List Char) : Bool :=
  match cs.dropWhile (inRanges caseIgnorableRanges) with
  | [] => false
  | c :: _ => inRanges casedRanges c

/-- The lower-case form of the text after `before`, which holds the characters
    already passed, the last one first. A capital sigma that ends a word takes
    its final form. -/
def lowerAfter (before : List Char) : List Char → List Char
  | [] => []
  | c :: rest =>
    let lowered :=
      if c == 'Σ' then
        if meetsCased before && !meetsCased rest then ['ς'] else ['σ']
      else lowerChar c
    lowered ++ lowerAfter (c :: before) rest

def lower (cs : List Char) : List Char :=
  lowerAfter [] cs

def upper (cs : List Char) : List Char :=
  cs.flatMap upperChar

/-- The lower-case form of the ASCII letters of a text, the other characters
    unchanged. -/
def asciiLower (cs : List Char) : List Char :=
  cs.map Char.toLower

/-- The first character in upper case and the rest in lower case. -/
def capitalize : List Char → List Char
  | [] => []
  | c :: rest => upperChar c ++ lower rest

/-- Whether a character separates words in a title: white space and ASCII
    punctuation do. -/
def endsTitleWord (c : Char) : Bool :=
  isBlank c || (0x21 ≤ c.toNat && c.toNat ≤ 0x7E && !c.isAlphanum)

/-- Every word with its first character in upper case and the others in lower
    case; `atStart` tells whether a word starts here. -/
def title (atStart : Bool) : List Char → List Char
  | [] => []
  | c :: rest =>
    if endsTitleWord c then c :: title true rest
    else (if atStart then upperChar c else lowerChar c) ++ title false rest

/-- Whether a character is a lower-case letter of any script. -/
def isLowerCase (c : Char) : Bool :=
  c.isLower || (0x7F < c.toNat && inRuns lowerCaseRuns c)

/-- Whether a character is an upper-case letter of any script. -/
def isUpperCase (c : Char) : Bool :=
  c.isUpper || (0x7F < c.toNat && inRuns upperCaseRuns c)

end PromptPacks.Text
