import ScopedTemplate.Number.Literal
import ScopedTemplate.Yaml.Fault

/-!
# Dates and times

A day, perhaps with a time of it and an offset from universal time.  Whether such a text means a
day is a question of its own: the parts have their ranges.
-/

namespace ScopedTemplate.Yaml

/-- A time of a day. -/
structure Clock where
  hour : Nat
  minute : Nat
  second : Nat
  /-- The minutes before universal time. -/
  offset : Option Int
  deriving DecidableEq, Repr

/-- A day, perhaps with a time. -/
structure Timestamp where
  year : Nat
  month : Nat
  day : Nat
  clock : Option Clock
  deriving DecidableEq, Repr

namespace Timestamp

def takeNumber? (least greatest : Nat) (text : List Char) : Option (Nat × List Char) :=
  let digits := (text.take greatest).takeWhile Char.isDigit
  if least ≤ digits.length then some (ofDigits 10 digits, text.drop digits.length) else none

def takeNumberAfter? (mark : Char) (least greatest : Nat) (text : List Char) :
    Option (Nat × List Char) :=
  match text with
  | [] => none
  | c :: rest => if c = mark then takeNumber? least greatest rest else none

def dropBlanks (text : List Char) : List Char := text.dropWhile fun c => c == ' ' || c == '\t'

def readOffset? (sign : Char) (text : List Char) : Option Int := do
  if sign != '+' && sign != '-' then none
  else
    let (hours, rest) ← takeNumber? 1 2 text
    let (minutes, rest) ← if rest = [] then some (0, []) else takeNumberAfter? ':' 2 2 rest
    if rest = [] then some (withSign (sign == '-') (hours * 60 + minutes)) else none

/-- Read what follows a time: nothing, the sign of universal time, or an offset. -/
def readZone? (text : List Char) : Option (Option Int) :=
  match dropBlanks text with
  | [] => if text = [] then some none else none
  | ['Z'] => some none
  | sign :: rest => (readOffset? sign rest).map some

/-- Read a time with its zone; fractions of seconds do not count. -/
def readClock? (text : List Char) : Option Clock := do
  let (hour, rest) ← takeNumber? 1 2 text
  let (minute, rest) ← takeNumberAfter? ':' 2 2 rest
  let (second, rest) ← takeNumberAfter? ':' 2 2 rest
  let rest := match rest with
    | '.' :: fraction => fraction.dropWhile Char.isDigit
    | rest => rest
  return ⟨hour, minute, second, ← readZone? rest⟩

def afterSeparator? : List Char → Option (List Char)
  | [] => none
  | c :: rest =>
    if c = 'T' ∨ c = 't' then some rest
    else if c = ' ' ∨ c = '\t' then some (dropBlanks rest)
    else none

def read? (text : List Char) : Option Timestamp := do
  let (year, rest) ← takeNumber? 4 4 text
  let (month, rest) ← takeNumberAfter? '-' 1 2 rest
  let (day, rest) ← takeNumberAfter? '-' 1 2 rest
  if rest = [] then return ⟨year, month, day, none⟩
  return ⟨year, month, day, some (← readClock? (← afterSeparator? rest))⟩

/-- Whether a text is a timestamp by itself: a day without a time has all of its digits. -/
def isPlain (text : List Char) : Bool :=
  (read? text).any fun timestamp => timestamp.clock.isSome || text.length == 10

def isLeap (year : Nat) : Bool := year % 4 == 0 && (year % 100 != 0 || year % 400 == 0)

def daysIn (year month : Nat) : Nat :=
  if month = 2 then (if isLeap year then 29 else 28)
  else if month = 4 ∨ month = 6 ∨ month = 9 ∨ month = 11 then 30
  else 31

def demand (condition : Bool) (reason : String) : Parsed Unit :=
  if condition then .ok () else .error (.value (.dateRange reason))

def spanText (minutes : Int) : String :=
  let days := minutes / 1440
  let seconds := minutes % 1440 * 60
  "datetime.timedelta(days=" ++ toString days ++
    (if seconds = 0 then "" else ", seconds=" ++ toString seconds) ++ ")"

def demandOffset (minutes : Int) : Parsed Unit :=
  demand (minutes.natAbs < 1440)
    ("offset must be a timedelta strictly between -timedelta(hours=24) and " ++
      "timedelta(hours=24), not " ++ spanText minutes ++ ".")

def demandDay (timestamp : Timestamp) : Parsed Unit := do
  let ⟨year, month, day, _⟩ := timestamp
  demand (1 ≤ year) ("year " ++ toString year ++ " is out of range")
  demand (1 ≤ month && month ≤ 12) "month must be in 1..12"
  demand (1 ≤ day && day ≤ daysIn year month) "day is out of range for month"

def demandTime (clock : Clock) : Parsed Unit := do
  demand (clock.hour < 24) "hour must be in 0..23"
  demand (clock.minute < 60) "minute must be in 0..59"
  demand (clock.second < 60) "second must be in 0..59"

def check (timestamp : Timestamp) : Parsed Unit := do
  timestamp.clock.forM fun clock => clock.offset.forM demandOffset
  timestamp.demandDay
  timestamp.clock.forM demandTime

end Timestamp

end ScopedTemplate.Yaml
