/-!
The shortest decimal that reads back as a given binary floating-point number.

A finite number is `m · 2^q`. The reals that round to it form an interval around it, with its ends
included when `m` is even. The shortest decimal is a point of the coarsest decimal grid that meets
the interval, and of two such points the nearer.
-/
namespace Apidoc.Decimal

/-- A positive binary number `m · 2^q`; `narrow` when the gap to the next smaller number is half
the gap to the next larger one. -/
structure Binary where
  m : Nat
  q : Int
  narrow : Bool

/-- A positive number as it is written: digits after a point that is shifted by `exponent`. -/
structure Written where
  digits : List Char
  exponent : Int

structure Ratio where
  num : Nat
  den : Nat

namespace Ratio

def lt (a b : Ratio) : Bool := a.num * b.den < b.num * a.den

def scale (base : Nat) (e : Int) (a : Ratio) : Ratio :=
  match e with
  | .ofNat n => ⟨a.num * Nat.pow base n, a.den⟩
  | .negSucc n => ⟨a.num, a.den * Nat.pow base (n + 1)⟩

/-- The number of digits before the point; for a ratio below one, minus the zeros after it. -/
def magnitude (a : Ratio) : Int :=
  if a.den ≤ a.num then (Nat.toDigits 10 (a.num / a.den)).length
  else 1 - (Nat.toDigits 10 ((a.den + a.num - 1) / a.num - 1)).length

end Ratio

namespace Binary

/-- Four times the number plus `quarters`, over four: the number itself and the ends of its
interval. -/
def shifted (b : Binary) (quarters : Int) : Ratio :=
  Ratio.scale 2 (b.q - 2) ⟨(4 * b.m + quarters).toNat, 1⟩

def catches (b : Binary) (a : Ratio) : Bool :=
  let low := b.shifted (if b.narrow then -1 else -2)
  let high := b.shifted 2
  if b.m % 2 = 0 then !a.lt low && !high.lt a else low.lt a && a.lt high

/-- The point nearest to the number on the grid of decimals with `count` digits, if it rounds to
the number; an exact tie goes to the even point. -/
def onGrid? (b : Binary) (count : Nat) : Option Written :=
  let value := b.shifted 0
  let unit := value.magnitude - count
  let steps := value.scale 10 (-unit)
  let below := steps.num / steps.den
  let twice := 2 * (steps.num % steps.den)
  let point := fun n : Nat => Ratio.scale 10 unit ⟨n, 1⟩
  let preferUpper := steps.den < twice || (twice = steps.den && below % 2 = 1)
  let order := if preferUpper then [below + 1, below] else [below, below + 1]
  (order.find? fun n => b.catches (point n)).map fun n =>
    let digits := Nat.toDigits 10 n
    ⟨(digits.reverse.dropWhile (· == '0')).reverse, unit + digits.length⟩

/-- The shortest decimal that rounds to the number; seventeen digits always do. -/
def shortest (b : Binary) : Written :=
  ((List.range 17).findSome? fun n => b.onGrid? (n + 1)).getD ⟨['0'], 1⟩

end Binary

inductive Parts where
  | nan
  | infinite (negative : Bool)
  | zero (negative : Bool)
  | finite (negative : Bool) (magnitude : Binary)

def Parts.ofFloat (x : Float) : Parts :=
  let bits : Nat := x.toBits.toNat
  let negative := bits / 0x8000000000000000 = 1
  let e : Nat := bits / 0x10000000000000 % 0x800
  let f : Nat := bits % 0x10000000000000
  if e = 2047 then if f = 0 then .infinite negative else .nan
  else if e = 0 then if f = 0 then .zero negative else .finite negative ⟨f, -1074, false⟩
  else .finite negative ⟨f + 0x10000000000000, (e : Int) - 1075, f = 0 && e > 1⟩

end Apidoc.Decimal
