import PromptPacks.Dictionary
import PromptPacks.Template.Advice
import PromptPacks.Template.Filter
import PromptPacks.Template.FreeNames
import PromptPacks.Template.Render
import PromptPacks.Template.Spelling
import PromptPacks.Template.StmtParser
import PromptPacks.Template.TagScan

namespace PromptPacks.Template

open PromptPacks.Text

def supportedStatements : List String :=
  ["if", "elif", "elsif", "else", "endif", "for", "endfor", "set", "endset", "filter",
    "endfilter", "raw", "endraw", "break", "continue"]

/-- Why a template is refused. -/
inductive Objection where
  | malformed (fault : ParseFault)
  | unsupportedStatement (name : String)
  | unknownFilter (name : String)
deriving DecidableEq

def Objection.message : Objection → String
  | .malformed fault => fault.message
  | .unsupportedStatement name => s!"unsupported tag: {name}"
  | .unknownFilter name => s!"unknown filter: {name}"

/-- The first objection to a template, with its place. -/
structure Diagnosis where
  objection : Objection
  place : Place
deriving DecidableEq

/-- A message with the line and the column that it is about. A column alone is
    not shown. -/
def placedMessage (message : String) (line column : Option Nat) : String :=
  match line, column with
  | some line, some column => s!"{message} (line {line}, column {column})"
  | some line, none => s!"{message} (line {line})"
  | none, _ => message

def Diagnosis.text (diagnosis : Diagnosis) : String :=
  placedMessage diagnosis.objection.message (some diagnosis.place.line)
    (some diagnosis.place.column)

def Diagnosis.advice (diagnosis : Diagnosis) : Advice :=
  .forMessage diagnosis.objection.message

/-- What a template refers to: the variables that it reads without giving them a
    value, and the filters. -/
structure References where
  «variables» : List String
  filters : List String
deriving DecidableEq

def diagnose (source : List Char) (objection : Objection) (offset : Nat) : Diagnosis :=
  ⟨objection, placeAt source offset⟩

/-- The statements of a template in either spelling. -/
def read (source : String) : Except (Located ParseFault) (List Stmt) :=
  parse (respell source.toList)

def filterNames (source : String) : List String :=
  sortedNames ((scannedFilters source.toList).map (·.value))

/-- The variables that a template reads without giving them a value. A template
    that cannot be read has none. -/
def variableNames (source : String) : List String :=
  match read source with
  | .ok template => sortedNames (freeNames template)
  | .error _ => []

/-- Reads a template and accepts it if it uses supported statements only. Its
    filters may be unknown. -/
def checkSyntax (source : String) : Except Diagnosis References :=
  match read source with
  | .error fault => .error (diagnose source.toList (.malformed fault.value) fault.offset)
  | .ok template =>
    match (scannedStatements source.toList).find? (!supportedStatements.contains ·.value) with
    | some found =>
      .error (diagnose source.toList (.unsupportedStatement found.value) found.offset)
    | none => .ok ⟨sortedNames (freeNames template), filterNames source⟩

/-- Reads a template and accepts it if it uses supported statements and known
    filters only. -/
def check (source : String) : Except Diagnosis References :=
  match checkSyntax source with
  | .error diagnosis => .error diagnosis
  | .ok references =>
    match (scannedFilters source.toList).find? (!Filter.known.contains ·.value) with
    | some found => .error (diagnose source.toList (.unknownFilter found.value) found.offset)
    | none => .ok references

/-- The text of a template with the given values. A template that cannot be read
    or fails gives no text at all. -/
def render (source : String) (context : Context) : String :=
  match read source with
  | .ok template => String.ofList ((output? template context).getD [])
  | .error _ => ""

end PromptPacks.Template
