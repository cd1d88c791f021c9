import PromptPacks.Number.Decimal
import PromptPacks.Refusal
import PromptPacks.Text.Blank

namespace PromptPacks

open PromptPacks.Number PromptPacks.Text

/-- Where the tables are kept, and how many connections may be open to them. -/
structure Settings where
  databaseUrl : String
  maxConnections : Nat
deriving DecidableEq, Repr

namespace Settings

/-- The settings that hold where the environment gives none. -/
def default : Settings :=
  ⟨"sqlite://taleforge.db?mode=rwc", 5⟩

/-- A positive number of at most 32 bits in decimal digits. A plus sign and
    white space around it are allowed. -/
def readPoolSize? (text : String) : Option Nat :=
  let digits := trim text.toList
  let unsigned := if digits.head? == some '+' then digits.tail else digits
  (readDigits? 10 unsigned).filter fun n => 0 < n && n < 4294967296

/-- The settings of an environment. A blank address counts as none. -/
def ofEnvironment (databaseUrl maxConnections : Option String) : Except Refusal Settings :=
  let url := (databaseUrl.filter (!isBlankText ·)).getD default.databaseUrl
  match maxConnections with
  | none => .ok ⟨url, default.maxConnections⟩
  | some text =>
    match readPoolSize? text with
    | some size => .ok ⟨url, size⟩
    | none => .error (.violation (.invalidPoolSize text))

end Settings

end PromptPacks
