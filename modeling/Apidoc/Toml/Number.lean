import Apidoc.Decimal.Read
import Apidoc.Toml.Lexis
import Apidoc.Value

/-!
Numbers, dates and times in TOML.
-/
namespace Apidoc.Toml

/-- Digits with single underscores between them, which do not count, and what is left. -/
def digitRun (isDigit : Char → Bool) : List Char → List Char × List Char
  | [] => ([], [])
  | c :: rest =>
    if isDigit c then
      match rest with
      | '_' :: more =>
        if more.head?.any isDigit then
          let (digits, after) := digitRun isDigit more
          (c :: digits, after)
        else ([c], rest)
      | next =>
        let (digits, after) := digitRun isDigit next
        (c :: digits, after)
    else ([], c :: rest)

def numberOf (base : Nat) (digits : List Char) : Nat :=
  Text.ofDigits base (digits.filterMap hexValue?)

def baseOf? (c : Char) : Option Nat :=
  [('x', 16), ('b', 2), ('o', 8)].lookup c

def basedNumber? : List Char → Option (Value × List Char)
  | '0' :: letter :: rest => do
    let base ← baseOf? letter
    let (digits, after) := digitRun (fun c => (hexValue? c).any (· < base)) rest
    if digits.isEmpty then none else some (.integer (numberOf base digits), after)
  | _ => none

/-- The whole part of a number: a zero alone, or digits without a zero in front. -/
def wholePart? : List Char → Option (List Char × List Char)
  | '0' :: rest => some (['0'], rest)
  | s =>
    let (digits, after) := digitRun Char.isDigit s
    if digits.isEmpty then none else some (digits, after)

def fractionPart (s : List Char) : List Char × List Char :=
  match s with
  | '.' :: rest =>
    let (digits, after) := digitRun Char.isDigit rest
    if digits.isEmpty then ([], s) else (digits, after)
  | _ => ([], s)

def exponentPart (s : List Char) : Option Int × List Char :=
  match s with
  | mark :: rest =>
    if mark == 'e' || mark == 'E' then
      let (negative, numeral) := Text.takeSign rest
      let (digits, after) := digitRun Char.isDigit numeral
      let power : Int := numberOf 10 digits
      if digits.isEmpty then (none, s) else (some (if negative then -power else power), after)
    else (none, s)
  | [] => (none, s)

def decimalNumber? (s : List Char) : Option (Except Fault (Value × List Char)) := do
  let (negative, body) := Text.takeSign s
  let (whole, rest) ← wholePart? body
  let (fraction, rest) := fractionPart rest
  let (power, after) := exponentPart rest
  if fraction.isEmpty && power.isNone then
    if whole.length > Text.integerDigitLimit then some (.error (.longInteger whole.length))
    else
      let n : Int := numberOf 10 whole
      some (.ok (.integer (if negative then -n else n), after))
  else
    let x := Decimal.ofDecimal (numberOf 10 (whole ++ fraction))
      (power.getD 0 - (fraction.length : Int))
    some (.ok (.real (if negative then -x else x), after))

def twoDigits? (low high : Nat) : List Char → Option (Nat × List Char)
  | a :: b :: rest =>
    if a.isDigit && b.isDigit then
      let n := numberOf 10 [a, b]
      if low ≤ n && n ≤ high then some (n, rest) else none
    else none
  | _ => none

def after? (mark : Char) : List Char → Option (List Char)
  | c :: rest => if c == mark then some rest else none
  | [] => none

/-- The millionths of a second, if they are given; further digits do not count. -/
def microPart (s : List Char) : Nat × List Char :=
  match s with
  | '.' :: rest =>
    let digits := rest.takeWhile Char.isDigit
    if digits.isEmpty then (0, s)
    else
      let six := (digits ++ List.replicate 6 '0').take 6
      (numberOf 10 six, rest.dropWhile Char.isDigit)
  | _ => (0, s)

def clock? (s : List Char) : Option (Clock × List Char) := do
  let (hour, rest) ← twoDigits? 0 23 s
  let (minute, rest) ← twoDigits? 0 59 (← after? ':' rest)
  let (second, rest) ← twoDigits? 0 59 (← after? ':' rest)
  let (micro, after) := microPart rest
  return (⟨hour, minute, second, micro⟩, after)

def date? (s : List Char) : Option (Date × List Char) := do
  let year := s.take 4
  guard (year.length = 4 && year.all Char.isDigit)
  let (month, rest) ← twoDigits? 1 12 (← after? '-' (s.drop 4))
  let (day, after) ← twoDigits? 1 31 (← after? '-' rest)
  return (⟨numberOf 10 year, month, day⟩, after)

def offsetPart (s : List Char) : Option Int × List Char :=
  match s with
  | c :: rest =>
    if c == 'Z' || c == 'z' then (some 0, rest)
    else if c == '+' || c == '-' then
      let read := do
        let (hours, rest) ← twoDigits? 0 23 rest
        let (minutes, after) ← twoDigits? 0 59 (← after? ':' rest)
        let span : Int := (hours * 60 + minutes : Nat)
        return (some (if c == '-' then -span else span), after)
      read.getD (none, s)
    else (none, s)
  | [] => (none, s)

/-- The time of day after a date, with a letter or space in between. -/
def clockAfterDate? : List Char → Option (Clock × List Char)
  | c :: rest => if c == 'T' || c == 't' || c == ' ' then clock? rest else none
  | [] => none

def moment? (s : List Char) : Option (Except Fault (Value × List Char)) := do
  let (date, rest) ← date? s
  if !date.isValid then some (refuse .invalidDate s)
  else
    match clockAfterDate? rest with
    | none => some (.ok (.date date, rest))
    | some (clock, rest) =>
      let (offset, after) := offsetPart rest
      some (.ok (.moment ⟨date, clock, offset⟩, after))

def namedNumber? (s : List Char) : Option (Value × List Char) :=
  let (negative, word) := Text.takeSign s
  let sign := fun x : Float => Value.real (if negative then -x else x)
  if "inf".toList.isPrefixOf word then some (sign (1 / 0), word.drop 3)
  else if "nan".toList.isPrefixOf word then some (sign (0 / 0), word.drop 3)
  else none

def scalar? (s : List Char) : Option (Except Fault (Value × List Char)) :=
  moment? s
    <|> (clock? s).map (fun (clock, after) => .ok (.clock clock, after))
    <|> (basedNumber? s).map .ok
    <|> decimalNumber? s
    <|> (namedNumber? s).map .ok

end Apidoc.Toml
