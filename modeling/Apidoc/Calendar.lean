/-!
Dates and times of day, and how they are written.
-/
namespace Apidoc

def paddedNumber (width n : Nat) : String :=
  let digits := Nat.toDigits 10 n
  String.ofList (List.replicate (width - digits.length) '0' ++ digits)

structure Date where
  year : Nat
  month : Nat
  day : Nat
  deriving DecidableEq, Repr

structure Clock where
  hour : Nat
  minute : Nat
  second : Nat
  micro : Nat
  deriving DecidableEq, Repr

structure Moment where
  date : Date
  clock : Clock
  offset : Option Int
  deriving DecidableEq, Repr

namespace Date

def isLeap (year : Nat) : Bool :=
  year % 4 = 0 && (year % 100 ≠ 0 || year % 400 = 0)

def daysIn (year month : Nat) : Nat :=
  if month = 2 then if isLeap year then 29 else 28
  else if [4, 6, 9, 11].contains month then 30
  else 31

def isValid (d : Date) : Bool :=
  1 ≤ d.year && 1 ≤ d.month && d.month ≤ 12 && 1 ≤ d.day && d.day ≤ daysIn d.year d.month

def shown (d : Date) : String :=
  s!"{paddedNumber 4 d.year}-{paddedNumber 2 d.month}-{paddedNumber 2 d.day}"

def parts (d : Date) : List String :=
  [toString d.year, toString d.month, toString d.day]

end Date

namespace Clock

def shown (t : Clock) : String :=
  let fraction := if t.micro = 0 then "" else s!".{paddedNumber 6 t.micro}"
  s!"{paddedNumber 2 t.hour}:{paddedNumber 2 t.minute}:{paddedNumber 2 t.second}{fraction}"

def parts (t : Clock) : List String :=
  [toString t.hour, toString t.minute]
    ++ (if t.second = 0 && t.micro = 0 then [] else [toString t.second])
    ++ (if t.micro = 0 then [] else [toString t.micro])

end Clock

namespace Moment

def shownOffset (minutes : Int) : String :=
  let sign := if minutes < 0 then "-" else "+"
  s!"{sign}{paddedNumber 2 (minutes.natAbs / 60)}:{paddedNumber 2 (minutes.natAbs % 60)}"

def shown (m : Moment) : String :=
  let offset := match m.offset with
    | none => ""
    | some minutes => shownOffset minutes
  s!"{m.date.shown} {m.clock.shown}{offset}"

/-- The offset as part of a call; a negative one is counted forward from the day before. -/
def offsetPart (minutes : Int) : String :=
  if minutes = 0 then "tzinfo=datetime.timezone.utc"
  else
    let span :=
      if minutes < 0 then s!"days=-1, seconds={(minutes + 1440) * 60}"
      else s!"seconds={minutes * 60}"
    s!"tzinfo=datetime.timezone(datetime.timedelta({span}))"

def parts (m : Moment) : List String :=
  m.date.parts ++ m.clock.parts ++ m.offset.toList.map offsetPart

end Moment

end Apidoc
