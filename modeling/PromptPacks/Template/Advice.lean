import PromptPacks.Text.Casing
import PromptPacks.Text.Search

namespace PromptPacks.Template

open PromptPacks.Text

/-- What an author is told about a template that cannot be read. -/
inductive Advice where
  | unclosed
  | openQuote
  | unsupportedTag
  | unknownFilter
  | unknownTest
  | unexpected
  | general
deriving DecidableEq, Repr

def Advice.text : Advice → String
  | .unclosed =>
    "A tag or block is not closed. Make sure every \x7b\x7b has a matching \x7d\x7d, and every " ++
    "\x7b% if %\x7d or \x7b% for %\x7d ends with \x7b% endif %\x7d or \x7b% endfor %\x7d."
  | .openQuote => "A piece of quoted text is missing its closing quote mark."
  | .unsupportedTag =>
    "This template uses a tag that is not supported. " ++
    "Available tags are if, elsif, else, for and set."
  | .unknownFilter => "This template uses a filter that does not exist."
  | .unknownTest =>
    "An 'is' check in this template is not supported. Compare values with == or != instead."
  | .unexpected =>
    "Something unexpected was found inside a tag. " ++
    "Check for typos, missing quotes or extra symbols."
  | .general => "Template contains an error. Please check the syntax."

/-- The words of a technical message that call for each advice. Earlier rules
    count first, as they are the more specific ones. -/
def Advice.rules : List (List String × Advice) :=
  [(["unexpected end of input", "unclosed", "unterminated block", "missing end"], .unclosed),
    (["unterminated string"], .openQuote),
    (["unsupported tag", "unknown statement", "unknown tag", "unknown block"], .unsupportedTag),
    (["unknown filter"], .unknownFilter),
    (["unknown test"], .unknownTest),
    (["unexpected", "expected", "invalid syntax"], .unexpected)]

/-- The advice for a technical message, whose case does not matter. -/
def Advice.forMessage (message : String) : Advice :=
  let lowered := lower message.toList
  let applies (rule : List String × Advice) :=
    rule.1.any fun words => occursIn words.toList lowered
  ((rules.find? applies).map (·.2)).getD .general

end PromptPacks.Template
