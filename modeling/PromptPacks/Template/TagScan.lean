import PromptPacks.Template.Masking
import PromptPacks.Template.Token
import PromptPacks.Text.Word

namespace PromptPacks.Template

open PromptPacks.Text

/-- What stands between two delimiters of a template, with the byte offset of
    its start. Quoted texts in it are blanked. -/
structure Tag where
  isStatement : Bool
  body : List Char
  offset : Nat

/-- The number of characters before the two that close a tag. Quoted texts are
    passed as a whole, so delimiters within them do not count; `quoted` tells
    how much of one is still to be passed. -/
def bodyLength? (closing : List Char) : Nat → List Char → Option Nat
  | _, [] => none
  | quoted + 1, _ :: rest => (bodyLength? closing quoted rest).map (· + 1)
  | 0, c :: rest =>
    if closing.isPrefixOf (c :: rest) then some 0
    else if isQuote c then
      match quotedLength? true c rest with
      | some length => (bodyLength? closing length rest).map (· + 1)
      | none => none
    else (bodyLength? closing 0 rest).map (· + 1)

/-- A tag at the start of a text: whether it is a statement, and the length of
    its body. -/
def opening? (cs : List Char) : Option (Bool × Nat) :=
  match cs with
  | '\x7b' :: '\x7b' :: rest => (bodyLength? ['\x7d', '\x7d'] 0 rest).map (false, ·)
  | '\x7b' :: '%' :: rest => (bodyLength? tagClosing 0 rest).map (true, ·)
  | _ => none

/-- The tags of a text whose first character has the given byte offset. The next
    `passed` characters belong to a tag already found. -/
def tagsFrom : Nat → Nat → List Char → List Tag
  | _, _, [] => []
  | passed + 1, offset, c :: rest => tagsFrom passed (offset + c.utf8Size) rest
  | 0, offset, c :: rest =>
    match opening? (c :: rest) with
    | some (isStatement, length) =>
      ⟨isStatement, withoutStrings ((rest.drop 1).take length), offset + 2⟩ ::
        tagsFrom (length + 3) (offset + c.utf8Size) rest
    | none => tagsFrom 0 (offset + c.utf8Size) rest

/-- The tags of a template outside of comments and raw blocks. -/
def tagsOf (source : List Char) : List Tag :=
  tagsFrom 0 0 (masked source)

def locatedName? (offset : Nat) (whole rest : List Char) : Option (Located String) :=
  (leadingName rest).map fun name =>
    ⟨String.ofList name, offset + (byteSize whole - byteSize rest)⟩

def Tag.keyword? (tag : Tag) : Option (Located String) :=
  if tag.isStatement then
    locatedName? tag.offset tag.body ((dropSign tag.body).dropWhile isBlank)
  else none

def Tag.blockFilter? (tag : Tag) : Option (Located String) :=
  if tag.isStatement then
    match after? "filter".toList ((dropSign tag.body).dropWhile isBlank) with
    | some behind =>
      if (behind.head?.map isBlank).getD false then
        locatedName? tag.offset tag.body (behind.dropWhile isBlank)
      else none
    | none => none
  else none

def pipedNames (offset : Nat) : List Char → List (Located String)
  | [] => []
  | c :: rest =>
    let later := pipedNames (offset + c.utf8Size) rest
    if c == '|' then
      (locatedName? (offset + c.utf8Size) rest (rest.dropWhile isBlank)).toList ++ later
    else later

/-- The filters of a tag, as far as its text shows them. -/
def Tag.filters (tag : Tag) : List (Located String) :=
  tag.blockFilter?.toList ++ pipedNames tag.offset tag.body

def scannedStatements (source : List Char) : List (Located String) :=
  (tagsOf source).filterMap Tag.keyword?

/-- The filters of a template, as far as its text shows them. -/
def scannedFilters (source : List Char) : List (Located String) :=
  (tagsOf source).flatMap Tag.filters

def startsWord (cs : List Char) : Bool :=
  (cs.head?.map isWordChar).getD false

/-- The byte offset of the first place where a name stands as a word of its own;
    `afterWord` tells whether the character before is a word character. -/
def wordOffset? (name : List Char) (afterWord : Bool) (cs : List Char) : Option Nat :=
  let isHere :=
    afterWord != startsWord cs &&
      match after? name cs with
      | some behind => (name.getLast?.map isWordChar).getD afterWord != startsWord behind
      | none => false
  if isHere then some 0
  else
    match cs with
    | [] => none
    | c :: rest => (wordOffset? name (isWordChar c) rest).map (· + c.utf8Size)

/-- The byte offset of the first place where a name stands before an opening
    parenthesis; `isFree` tells whether a name may start here. -/
def callOffset? (name : List Char) (isFree : Bool) (cs : List Char) : Option Nat :=
  let isHere :=
    isFree &&
      match after? name cs with
      | some behind => (behind.dropWhile isBlank).head? == some '('
      | none => false
  if isHere then some 0
  else
    match cs with
    | [] => none
    | c :: rest =>
      (callOffset? name (c != '.' && !isWordChar c) rest).map (· + c.utf8Size)

/-- The byte offset of the first place in a tag where a name stands as a word. -/
def referenceOffset? (source : List Char) (name : String) : Option Nat :=
  (tagsOf source).findSome? fun tag =>
    (wordOffset? name.toList false tag.body).map (tag.offset + ·)

/-- The byte offset of the first place in a tag where a name looks like that of
    a function that is called. -/
def callPlace? (source : List Char) (name : String) : Option Nat :=
  (tagsOf source).findSome? fun tag =>
    (callOffset? name.toList true tag.body).map (tag.offset + ·)

end PromptPacks.Template
