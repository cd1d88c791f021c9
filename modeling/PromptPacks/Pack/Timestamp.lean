import PromptPacks.Pack.Moment
import PromptPacks.Text.Blank

namespace PromptPacks

open PromptPacks.Number PromptPacks.Text

/-- A reader of a part of a text, which gives what it read and the rest. -/
abbrev TimeReader := StateT (List Char) Option

namespace TimeReader

/-- Some digits, one at least and as many as given at most. -/
def digits (most : Nat) : TimeReader Nat := fun cs =>
  let digits := (cs.take most).takeWhile Char.isDigit
  (readDigits? 10 digits).map (·, cs.drop digits.length)

/-- Some digits with white space before them. -/
def number (most : Nat) : TimeReader Nat := fun cs =>
  digits most (trimStart cs)

def oneOf (allowed : List Char) : TimeReader Char
  | [] => none
  | c :: rest => if allowed.contains c then some (c, rest) else none

/-- A sign between two parts, which may have white space before it. -/
def separator (sign : Char) : TimeReader Unit := fun cs =>
  (oneOf [sign] (trimStart cs)).map fun (_, rest) => ((), rest)

/-- The whole rest of a text satisfies a condition. -/
def rest (condition : List Char → Bool) : TimeReader Unit := fun cs =>
  if condition cs then some ((), cs) else none

def require (condition : Bool) : TimeReader Unit := fun cs =>
  if condition then some ((), cs) else none

/-- A year: up to four digits, or any number of them after a sign. -/
def year : TimeReader Int := fun cs =>
  match trimStart cs with
  | '-' :: rest => (digits rest.length rest).map fun (n, rest) => (-(n : Int), rest)
  | '+' :: rest => (digits rest.length rest).map fun (n, rest) => ((n : Int), rest)
  | cs => (digits 4 cs).map fun (n, rest) => ((n : Int), rest)

def date : TimeReader Day := do
  let year ← year
  separator '-'
  let month ← number 2
  separator '-'
  let day ← number 2
  Day.of? year month day

/-- Parts of a second after a point, where there are any. Those behind the ninth
    digit are not told apart. -/
def fraction : TimeReader Nat
  | '.' :: cs =>
    let digits := cs.takeWhile Char.isDigit
    if digits.isEmpty then none
    else (readDigits? 10 ((digits.take 9).rightpad 9 '0')).map (·, cs.drop digits.length)
  | cs => some (0, cs)

def time : TimeReader TimeOfDay := do
  let hour ← number 2
  separator ':'
  let minute ← number 2
  separator ':'
  let second ← number 2
  let nanosecond ← fraction
  TimeOfDay.of? hour minute second nanosecond

def twoDigits : TimeReader Nat
  | a :: b :: cs => (readDigits? 10 [a, b]).map (·, cs)
  | _ => none

def minusSigns : List Char := ['-', Char.ofNat 0x2212]

/-- The minutes that a place is ahead of universal time, less than a day. -/
def signedOffset : TimeReader Int := do
  let sign ← oneOf ('+' :: minusSigns)
  let hours ← twoDigits
  modify (List.dropWhile fun c => c == ':' || isBlank c)
  let minutes ← twoDigits
  require (hours ≤ 23 && minutes ≤ 59)
  let ahead : Int := hours * 60 + minutes
  return if minusSigns.contains sign then -ahead else ahead

/-- An offset from universal time, or universal time itself. -/
def offset : TimeReader Int := fun cs =>
  match trimStart cs with
  | [] => none
  | c :: rest =>
    let word := (c :: rest).take 3
    if word.map Char.toLower == ['u', 't', 'c'] then some (0, (c :: rest).drop 3)
    else if c == 'z' || c == 'Z' then some (0, rest)
    else signedOffset (c :: rest)

/-- A day, a time of day and an offset from universal time. -/
def timestamp : TimeReader Moment := do
  let day ← date
  let _ ← oneOf ['T', 't', ' ']
  let time ← time
  let ahead ← offset
  rest fun cs => cs.all isBlank
  (Moment.mk day time).earlier? ahead

end TimeReader

/-- The moment that a text tells by a day, a time of day and an offset from
    universal time. -/
def Moment.ofText? (text : String) : Option Moment :=
  TimeReader.timestamp.run' text.toList

/-- Whether a text tells a moment. -/
def isTimestamp (text : String) : Bool :=
  (Moment.ofText? text).isSome

end PromptPacks
