import PromptPacks.Digest.Sha256
import PromptPacks.Text.Blank

namespace PromptPacks.Digest

open PromptPacks.Text

/-- Line ends of one kind: a carriage return, with the line feed after it if
    there is one, becomes a line feed. -/
def unifyLineEnds : List Char → List Char
  | [] => []
  | '\r' :: '\n' :: rest => '\n' :: unifyLineEnds rest
  | '\r' :: rest => '\n' :: unifyLineEnds rest
  | c :: rest => c :: unifyLineEnds rest

def lines : List Char → List (List Char)
  | [] => [[]]
  | c :: rest =>
    if c == '\n' then [] :: lines rest
    else match lines rest with
      | [] => [[c]]
      | line :: more => (c :: line) :: more

/-- Lines put together with a line feed between each two. -/
def joinLines (ls : List (List Char)) : List Char :=
  List.intercalate ['\n'] ls

/-- The normal form of a template: line feeds only, no white space at the end of
    a line, and none at the ends of the text. Two texts that differ in nothing
    else count as the same template. -/
def normalize (content : String) : String :=
  String.ofList (trim (joinLines ((lines (unifyLineEnds content.toList)).map trimEnd)))

/-- The digest by which templates are compared: that of the normal form, in base
    sixteen. -/
def contentHash (content : String) : String :=
  String.ofList (hexText (sha256 (normalize content).toUTF8.toList))

end PromptPacks.Digest
