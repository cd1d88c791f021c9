namespace PromptPacks.Text

/-- The number of bytes that a text takes in UTF-8. -/
def byteSize (cs : List Char) : Nat :=
  cs.foldr (fun c size => c.utf8Size + size) 0

/-- A place in a text, counted from one. Columns count characters. -/
structure Place where
  line : Nat
  column : Nat
deriving DecidableEq, Repr

/-- The place reached by reading a text from a given place on. -/
def Place.after (place : Place) : List Char → Place
  | [] => place
  | c :: rest =>
    if c == '\n' then Place.after ⟨place.line + 1, 1⟩ rest
    else Place.after ⟨place.line, place.column + 1⟩ rest

/-- The characters before a byte offset, or nothing when the offset lies within
    a character or beyond the end. -/
def before? : List Char → Nat → Option (List Char)
  | _, 0 => some []
  | [], _ + 1 => none
  | c :: rest, offset =>
    if c.utf8Size ≤ offset then (before? rest (offset - c.utf8Size)).map (c :: ·) else none

/-- The place of a byte offset. An offset beyond the end, or within a character,
    stands for the end of the text. -/
def placeAt (source : List Char) (offset : Nat) : Place :=
  Place.after ⟨1, 1⟩ ((before? source offset).getD source)

end PromptPacks.Text
