import Apidoc.Decimal.Shortest

/-!
How decimals are written: with a point or with an exponent.
-/
namespace Apidoc.Decimal

/-- The choices that a written form of floating-point numbers makes: between which exponents of ten
only a point is written, what follows a whole number, and how many digits an exponent has at least.
-/
structure Style where
  leastPlain : Int
  greatestPlain : Int
  wholeMark : String
  exponentWidth : Nat
  nan : String
  infinity : String

namespace Style

def plain (n : Style) (d : Written) : List Char :=
  match d.exponent with
  | .negSucc zeros => "0.".toList ++ List.replicate (zeros + 1) '0' ++ d.digits
  | .ofNat 0 => "0.".toList ++ d.digits
  | .ofNat whole =>
    if d.digits.length ≤ whole then
      d.digits ++ List.replicate (whole - d.digits.length) '0' ++ n.wholeMark.toList
    else d.digits.take whole ++ '.' :: d.digits.drop whole

def scientific (n : Style) (d : Written) : List Char :=
  let e := d.exponent - 1
  let digits := Nat.toDigits 10 e.natAbs
  let padding := List.replicate (n.exponentWidth - digits.length) '0'
  let front := d.digits.take 1
  let rest := d.digits.drop 1
  front ++ (if rest.isEmpty then [] else '.' :: rest)
    ++ ['e', if e < 0 then '-' else '+'] ++ padding ++ digits

def positive (n : Style) (d : Written) : List Char :=
  let e := d.exponent - 1
  if n.leastPlain ≤ e && e ≤ n.greatestPlain then n.plain d else n.scientific d

def write (n : Style) (x : Float) : String :=
  let signed := fun (negative : Bool) (s : List Char) =>
    String.ofList (if negative then '-' :: s else s)
  match Parts.ofFloat x with
  | .nan => n.nan
  | .infinite negative => signed negative n.infinity.toList
  | .zero negative => signed negative ('0' :: n.wholeMark.toList)
  | .finite negative magnitude => signed negative (n.positive magnitude.shortest)

end Style

end Apidoc.Decimal
