import PromptPacks.Number.Decimal

namespace PromptPacks

open PromptPacks.Number

def monthLength (year : Int) (month : Nat) : Nat :=
  if month = 2 then
    if year % 4 = 0 && (year % 100 ≠ 0 || year % 400 = 0) then 29 else 28
  else if [4, 6, 9, 11].contains month then 30
  else 31

/-- A day of the calendar, within the years that can be told. -/
structure Day where
  year : Int
  month : Nat
  day : Nat
  year_bounds : -262143 ≤ year ∧ year ≤ 262142
  month_bounds : 1 ≤ month ∧ month ≤ 12
  day_bounds : 1 ≤ day ∧ day ≤ monthLength year month
deriving DecidableEq, Repr

/-- A time of day. The second may be a leap second, whatever the minute. -/
structure TimeOfDay where
  hour : Nat
  minute : Nat
  second : Nat
  nanosecond : Nat
  hour_lt : hour < 24
  minute_lt : minute < 60
  second_le : second ≤ 60
  nanosecond_lt : nanosecond < 1000000000
deriving DecidableEq, Repr

/-- A moment, told by its day and its time of day in universal time. -/
structure Moment where
  day : Day
  time : TimeOfDay
deriving DecidableEq, Repr

namespace Day

def of? (year : Int) (month day : Nat) : Option Day :=
  if h : (-262143 ≤ year ∧ year ≤ 262142) ∧ (1 ≤ month ∧ month ≤ 12) ∧
      1 ≤ day ∧ day ≤ monthLength year month then
    some ⟨year, month, day, h.1, h.2.1, h.2.2⟩
  else none

/-- The day after a day, if its year can be told. -/
def next? (day : Day) : Option Day :=
  of? day.year day.month (day.day + 1) <|> of? day.year (day.month + 1) 1 <|>
    of? (day.year + 1) 1 1

/-- The day before a day, if its year can be told. -/
def previous? (day : Day) : Option Day :=
  of? day.year day.month (day.day - 1) <|>
    of? day.year (day.month - 1) (monthLength day.year (day.month - 1)) <|>
    of? (day.year - 1) 12 31

end Day

namespace TimeOfDay

def of? (hour minute second nanosecond : Nat) : Option TimeOfDay :=
  if h : hour < 24 ∧ minute < 60 ∧ second ≤ 60 ∧ nanosecond < 1000000000 then
    some ⟨hour, minute, second, nanosecond, h.1, h.2.1, h.2.2.1, h.2.2.2⟩
  else none

def minuteOfDay (time : TimeOfDay) : Nat :=
  time.hour * 60 + time.minute

/-- The same second in another minute, counted from any midnight. -/
def atMinute (time : TimeOfDay) (minute : Nat) : TimeOfDay :=
  { time with
    hour := minute / 60 % 24
    minute := minute % 60
    hour_lt := Nat.mod_lt _ (by decide)
    minute_lt := Nat.mod_lt _ (by decide) }

end TimeOfDay

/-- The digits of a number with zeros before them where they are fewer than a
    width. -/
def paddedDigits (width n : Nat) : List Char :=
  (decimalDigits n).leftpad width '0'

namespace Day

/-- A year in four digits, or with its sign where they do not tell it. -/
def yearText (year : Int) : List Char :=
  if 0 ≤ year ∧ year ≤ 9999 then paddedDigits 4 year.natAbs
  else (if year < 0 then '-' else '+') :: paddedDigits 4 year.natAbs

def text (day : Day) : List Char :=
  yearText day.year ++ '-' :: paddedDigits 2 day.month ++ '-' :: paddedDigits 2 day.day

end Day

namespace TimeOfDay

/-- The parts of a second in as many groups of three digits as tell them. -/
def fractionText (nanosecond : Nat) : List Char :=
  if nanosecond = 0 then []
  else if nanosecond % 1000000 = 0 then '.' :: paddedDigits 3 (nanosecond / 1000000)
  else if nanosecond % 1000 = 0 then '.' :: paddedDigits 6 (nanosecond / 1000)
  else '.' :: paddedDigits 9 nanosecond

def text (time : TimeOfDay) : List Char :=
  paddedDigits 2 time.hour ++ ':' :: paddedDigits 2 time.minute ++
    ':' :: paddedDigits 2 time.second ++ fractionText time.nanosecond

end TimeOfDay

namespace Moment

/-- The moment a number of minutes before a given one, with less than a day
    between them. -/
def earlier? (moment : Moment) (minutes : Int) : Option Moment :=
  let minute := (moment.time.minuteOfDay : Int) - minutes
  let day? :=
    if minute < 0 then moment.day.previous?
    else if minute < 1440 then some moment.day
    else moment.day.next?
  day?.map fun day => ⟨day, moment.time.atMinute (minute % 1440).toNat⟩

def text (moment : Moment) : String :=
  String.ofList (moment.day.text ++ 'T' :: moment.time.text ++ ['Z'])

end Moment

end PromptPacks
