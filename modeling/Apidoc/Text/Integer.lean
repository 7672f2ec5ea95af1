import Apidoc.Text.Blank
import Apidoc.Text.Digit
import Apidoc.Text.Quoted

/-!
Reading whole numbers as people type them: white space around, an optional sign, decimal digits of
any script, and single underscores between digits.
-/
namespace Apidoc.Text

/-- The values of the digits of a numeral, most significant first; single underscores may stand
between two digits. -/
def numeralDigits? : List Char → Option (List Nat)
  | [] => none
  | [c] => (decimalDigit? c).map ([·])
  | c :: '_' :: rest => do return (← decimalDigit? c) :: (← numeralDigits? rest)
  | c :: rest => do return (← decimalDigit? c) :: (← numeralDigits? rest)

def ofDigits (base : Nat) (digits : List Nat) : Nat :=
  digits.foldl (fun n d => base * n + d) 0

def takeSign : List Char → Bool × List Char
  | '-' :: rest => (true, rest)
  | '+' :: rest => (false, rest)
  | rest => (false, rest)

inductive IntegerFault where
  | malformed (text : String)
  | tooLong (digits : Nat)

def integerDigitLimit : Nat := 4300

def longIntegerMessage (digits : Nat) : String :=
  s!"Exceeds the limit ({integerDigitLimit} digits) for integer string conversion: "
    ++ s!"value has {digits} digits; use sys.set_int_max_str_digits() to increase the limit"

def untellableIntegerMessage : String :=
  s!"Exceeds the limit ({integerDigitLimit} digits) for integer string conversion; "
    ++ "use sys.set_int_max_str_digits() to increase the limit"

def isTellable (n : Int) : Bool :=
  n.natAbs < Nat.pow 10 integerDigitLimit

def IntegerFault.message : IntegerFault → String
  | .malformed text => s!"invalid literal for int() with base 10: {quoted text}"
  | .tooLong digits => longIntegerMessage digits

/-- The white space that may stand around a numeral: the separator controls are none here. -/
def isNumeralBlank (c : Char) : Bool :=
  isBlank c && !(0x1C ≤ c.toNat && c.toNat ≤ 0x1F)

def readInteger (text : String) : Except IntegerFault Int :=
  let (negative, numeral) := takeSign (stripEnds isNumeralBlank text.toList)
  match numeralDigits? numeral with
  | none => .error (.malformed text)
  | some digits =>
    if digits.length > integerDigitLimit then .error (.tooLong digits.length)
    else
      let n : Int := ofDigits 10 digits
      .ok (if negative then -n else n)

end Apidoc.Text
