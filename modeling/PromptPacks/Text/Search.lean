namespace PromptPacks.Text

def after? : List Char → List Char → Option (List Char)
  | [], cs => some cs
  | _ :: _, [] => none
  | p :: start, c :: rest => if p = c then after? start rest else none

/-- The number of characters before the first place whose rest satisfies a
    condition. -/
def distanceTo? (found : List Char → Bool) : List Char → Option Nat
  | [] => if found [] then some 0 else none
  | c :: rest => if found (c :: rest) then some 0 else (distanceTo? found rest).map (· + 1)

def occursIn (part : List Char) : List Char → Bool
  | [] => part.isEmpty
  | c :: rest => part.isPrefixOf (c :: rest) || occursIn part rest

/-- Replaces the parts of a text that equal a pattern, from left to right. A
    pattern without characters is found before each character and at the end.
    `skipped` characters belong to a part already replaced. -/
def replaceIn (pattern replacement : List Char) : Nat → List Char → List Char
  | _, [] => if pattern.isEmpty then replacement else []
  | skipped + 1, _ :: rest => replaceIn pattern replacement skipped rest
  | 0, c :: rest =>
    if pattern.isEmpty then replacement ++ c :: replaceIn pattern replacement 0 rest
    else if pattern.isPrefixOf (c :: rest) then
      replacement ++ replaceIn pattern replacement (pattern.length - 1) rest
    else c :: replaceIn pattern replacement 0 rest

end PromptPacks.Text
