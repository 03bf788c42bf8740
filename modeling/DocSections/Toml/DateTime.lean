import DocSections.Text.Digits

/-! Dates and times in TOML: a date, a time of day, or both joined by `T` or a blank, and then maybe
with an offset from UTC. They are kept as text in one written form. -/

namespace DocSections.Toml

def fixedDigits? (n : Nat) (cs : List Char) : Option (Nat × List Char) :=
  if n ≤ cs.length ∧ (cs.take n).all Char.isDigit then
    some (Text.decimalOf (cs.take n), cs.drop n)
  else none

def twoDigits? (first last : Nat) (cs : List Char) : Option (Nat × List Char) :=
  (fixedDigits? 2 cs).filter fun r => first ≤ r.1 && r.1 ≤ last

def expect? (c : Char) : List Char → Option (List Char)
  | d :: rest => if d = c then some rest else none
  | [] => none

def isLeapYear (year : Nat) : Bool := year % 4 == 0 && (year % 100 != 0 || year % 400 == 0)

def daysIn (year month : Nat) : Nat :=
  if month = 2 then (if isLeapYear year then 29 else 28)
  else if [4, 6, 9, 11].contains month then 30
  else 31

def date? (cs : List Char) : Option (List Char × List Char) := do
  let (year, rest) ← fixedDigits? 4 cs
  let (month, rest) ← twoDigits? 1 12 (← expect? '-' rest)
  let (_, rest) ← twoDigits? 1 (daysIn year month) (← expect? '-' rest)
  some (cs.take 10, rest)

/-- The fraction of a second, of which nine digits count; zeros at its end are not written. -/
def fractionText (digits : List Char) : List Char :=
  let kept := ((digits.take 9).reverse.dropWhile (· == '0')).reverse
  if kept = [] then [] else '.' :: kept

def time? (lastHour : Nat) (cs : List Char) : Option (List Char × List Char) := do
  let (_, rest) ← twoDigits? 0 lastHour cs
  let (_, rest) ← twoDigits? 0 59 (← expect? ':' rest)
  let (_, rest) ← twoDigits? 0 60 (← expect? ':' rest)
  match rest with
  | '.' :: more =>
    if more.head?.any Char.isDigit then
      some (cs.take 8 ++ fractionText (more.takeWhile Char.isDigit), more.dropWhile Char.isDigit)
    else none
  | _ => some (cs.take 8, rest)

def padded (n : Nat) : List Char := [Text.hexDigit (n / 10), Text.hexDigit (n % 10)]

/-- An offset as it is written: less than an hour takes part in it like all other minutes. -/
def offsetText (negative : Bool) (minutes : Nat) : List Char :=
  (if negative ∧ minutes ≠ 0 then '-' else '+') ::
    (padded (minutes / 60) ++ ':' :: padded (minutes % 60))

/-- Reads an offset of at most `lastHour` hours with at most `lastMinute` minutes beside them, which
is no longer than a day. -/
def offset? (lastHour lastMinute : Nat) (cs : List Char) : Option (List Char) :=
  match cs with
  | [] => some []
  | c :: rest =>
    if c = 'Z' ∨ c = 'z' then if rest = [] then some ['Z'] else none
    else if c = '+' ∨ c = '-' then do
      let (hours, rest) ← twoDigits? 0 lastHour rest
      let (minutes, left) ← twoDigits? 0 lastMinute (← expect? ':' rest)
      let all := hours * 60 + minutes
      if left = [] ∧ all ≤ 24 * 60 then some (offsetText (c == '-') all) else none
    else none

/-- The written form of a date, a time, or a date and time, whose hours and offsets have these
bounds. -/
def dateTimeWithin? (lastHour lastOffsetHour lastOffsetMinute : Nat) (cs : List Char) :
    Option String :=
  match date? cs with
  | none => do
    let (time, rest) ← time? lastHour cs
    if rest = [] then some (String.ofList time) else none
  | some (date, []) => some (String.ofList date)
  | some (date, c :: rest) =>
    if c = 'T' ∨ c = 't' ∨ c = ' ' then do
      let (time, rest) ← time? lastHour rest
      let offset ← offset? lastOffsetHour lastOffsetMinute rest
      some (String.ofList (date ++ 'T' :: time ++ offset))
    else none

/-- The written form of the date, the time, or the date and time that the characters spell. -/
def dateTime? (cs : List Char) : Option String := dateTimeWithin? 23 23 59 cs

/-- The written form of a date or time that a text gives; it may tell the end of the day as the hour
24, and offsets in any numbers of hours and minutes. -/
def dateTimeOfText? (s : String) : Option String := dateTimeWithin? 24 99 99 s.toList

def isDate (cs : List Char) : Bool := (date? cs).any (·.2.isEmpty)

example : dateTime? "1979-05-27 07:32:00.500z".toList = some "1979-05-27T07:32:00.5Z" := by
  decide +kernel
example : dateTimeOfText? "1979-05-27T24:00:00-00:90" = some "1979-05-27T24:00:00-01:30" := by
  decide +kernel
example : dateTime? "2023-02-29".toList = none := by decide +kernel
example : dateTime? "23:59:60".toList = some "23:59:60" := by decide +kernel

end DocSections.Toml
