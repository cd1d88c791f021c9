import PromptPacks.Text.CodeRange
import PromptPacks.Text.HiddenTable

namespace PromptPacks.Text

/-- Whether a character is shown by its code point in a quoted text. -/
def isHidden (c : Char) : Bool :=
  c.toNat < 0x20 || (0x7E < c.toNat && inRanges hiddenRanges c)

/-- The digits of a code point in base sixteen, without leading zeros. -/
def hexDigits (n : Nat) : List Char :=
  Nat.toDigits 16 n

/-- One character of a quoted text. A double quote and a backslash are escaped,
    line ends, tabulators and the null character have letters of their own, and
    a character without a visible form is written by its code point. -/
def quotedChar (c : Char) : List Char :=
  if c == '"' then ['\\', '"']
  else if c == '\\' then ['\\', '\\']
  else if c == '\n' then ['\\', 'n']
  else if c == '\r' then ['\\', 'r']
  else if c == '\t' then ['\\', 't']
  else if c.toNat == 0 then ['\\', '0']
  else if isHidden c then ['\\', 'u', '\x7b'] ++ hexDigits c.toNat ++ ['\x7d']
  else [c]

def quoted (cs : List Char) : List Char :=
  '"' :: cs.flatMap quotedChar ++ ['"']

end PromptPacks.Text
