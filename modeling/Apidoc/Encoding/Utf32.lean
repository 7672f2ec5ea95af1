import Apidoc.Encoding.Utf16

/-!
UTF-32: four bytes for a character.
-/
namespace Apidoc.Encoding.Utf32

open Utf16 (Order)

def label : Order → String
  | .littleEndian => "utf-32-le"
  | .bigEndian => "utf-32-be"

def unit (order : Order) (a b c d : UInt8) : Nat :=
  match order with
  | .littleEndian => order.unit c d * 65536 + order.unit a b
  | .bigEndian => order.unit a b * 65536 + order.unit c d

def read (order : Order) (position : Nat) : List UInt8 → Except Fault (List Char)
  | [] => .ok []
  | a :: b :: c :: d :: rest =>
    let code := unit order a b c d
    if 0xD800 ≤ code && code < 0xE000 then .error ⟨label order, a, position, 4, .surrogate⟩
    else if code ≥ 0x110000 then .error ⟨label order, a, position, 4, .beyondUnicode⟩
    else (read order (position + 4) rest).map (Char.ofNat code :: ·)
  | a :: short => .error ⟨label order, a, position, 1 + short.length, .truncated⟩

def announced? : List UInt8 → Option Order
  | 0xFF :: 0xFE :: 0 :: 0 :: _ => some .littleEndian
  | 0 :: 0 :: 0xFE :: 0xFF :: _ => some .bigEndian
  | _ => none

end Apidoc.Encoding.Utf32
