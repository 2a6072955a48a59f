/-!
Moments: days of the calendar, times of day, and both together, perhaps with the distance to the
time at Greenwich.
-/

namespace Sexpr

structure Day where
  year : Nat
  month : Nat
  day : Nat
  deriving DecidableEq

/-- A time of day, down to millionths of a second. -/
structure Clock where
  hour : Nat
  minute : Nat
  second : Nat
  micro : Nat
  deriving DecidableEq

/-- A day, a time of day, or both. An offset is counted in minutes, eastward. -/
inductive Moment where
  | day (day : Day)
  | clock (clock : Clock)
  | both (day : Day) (clock : Clock) (offset : Option Int)
  deriving DecidableEq

namespace Day

def isLeapYear (year : Nat) : Bool :=
  year % 4 == 0 && (year % 100 != 0 || year % 400 == 0)

def daysIn (year month : Nat) : Nat :=
  if month = 2 then if isLeapYear year then 29 else 28
  else if [4, 6, 9, 11].contains month then 30
  else 31

/-- Whether the calendar, which starts with the year one, has the day. -/
def isValid (date : Day) : Bool :=
  1 ≤ date.year && 1 ≤ date.month && date.month ≤ 12 && 1 ≤ date.day &&
    date.day ≤ daysIn date.year date.month

def parts (date : Day) : List Nat :=
  [date.year, date.month, date.day]

end Day

def Clock.parts (clock : Clock) : List Nat :=
  let fine := if clock.micro = 0 then [] else [clock.micro]
  let seconds := if clock.second = 0 ∧ clock.micro = 0 then [] else [clock.second]
  clock.hour :: clock.minute :: seconds ++ fine

namespace Moment

/-- The zone of an offset. One to the west is a day less and what is left of it, in seconds. -/
def renderZone (offset : Int) : String :=
  if offset = 0 then "datetime.timezone.utc"
  else
    let distance := if offset < 0 then "days=-1, seconds=" ++ toString ((offset + 1440) * 60)
      else "seconds=" ++ toString (offset * 60)
    "datetime.timezone(datetime.timedelta(" ++ distance ++ "))"

def render : Moment → String
  | .day date => "datetime.date(" ++ listed date.parts ++ ")"
  | .clock time => "datetime.time(" ++ listed time.parts ++ ")"
  | .both date time offset =>
    "datetime.datetime(" ++ listed (date.parts ++ time.parts) ++
      (match offset with
        | some offset => ", tzinfo=" ++ renderZone offset
        | none => "") ++ ")"
where
  listed (parts : List Nat) : String :=
    ", ".intercalate (parts.map toString)

end Moment

end Sexpr
