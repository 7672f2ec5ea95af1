import Apidoc.Encoding.Fault

/-!
UTF-16: two bytes for a character, or two pairs of bytes that are surrogates.
-/
namespace Apidoc.Encoding.Utf16

inductive Order where
  | littleEndian
  | bigEndian
  deriving DecidableEq, Repr

def Order.label : Order → String
  | littleEndian => "utf-16-le"
  | bigEndian => "utf-16-be"

def Order.unit (order : Order) (first second : UInt8) : Nat :=
  match order with
  | littleEndian => second.toNat * 256 + first.toNat
  | bigEndian => first.toNat * 256 + second.toNat

def isHigh (unit : Nat) : Bool := 0xD800 ≤ unit && unit < 0xDC00

def isLow (unit : Nat) : Bool := 0xDC00 ≤ unit && unit < 0xE000

def joined (high low : Nat) : Char :=
  Char.ofNat (0x10000 + (high - 0xD800) * 1024 + (low - 0xDC00))

def read (order : Order) (position : Nat) : List UInt8 → Except Fault (List Char)
  | [] => .ok []
  | [b] => .error ⟨order.label, b, position, 1, .truncated⟩
  | a :: b :: rest =>
    let unit := order.unit a b
    if isHigh unit then
      match rest with
      | c :: d :: rest =>
        let next := order.unit c d
        if isLow next then (read order (position + 4) rest).map (joined unit next :: ·)
        else .error ⟨order.label, a, position, 2, .loneHighSurrogate⟩
      | short => .error ⟨order.label, a, position, 2 + short.length, .unexpectedEnd⟩
    else if isLow unit then .error ⟨order.label, a, position, 2, .loneLowSurrogate⟩
    else (read order (position + 2) rest).map (Char.ofNat unit :: ·)

def announced? : List UInt8 → Option Order
  | 0xFF :: 0xFE :: _ => some .littleEndian
  | 0xFE :: 0xFF :: _ => some .bigEndian
  | _ => none

end Apidoc.Encoding.Utf16
