import Apidoc.Encoding.Fault

/-!
Encodings in which each byte is a character.
-/
namespace Apidoc.Encoding.SingleByte

structure Table where
  label : String
  char? : UInt8 → Option Char
  reason : Reason

def read (table : Table) (position : Nat) : List UInt8 → Except Fault (List Char)
  | [] => .ok []
  | b :: rest =>
    match table.char? b with
    | some c => (read table (position + 1) rest).map (c :: ·)
    | none => .error ⟨table.label, b, position, 1, table.reason⟩

def decode (table : Table) (bytes : List UInt8) : Except Fault (List Char) :=
  read table 0 bytes

def ascii : Table :=
  ⟨"ascii", fun b => if b.toNat < 128 then some (Char.ofNat b.toNat) else none, .outOfRange⟩

def latin1 : Table :=
  ⟨"latin-1", fun b => some (Char.ofNat b.toNat), .undefinedByte⟩

def windowsUpper : List (Option Char) :=
  [some '€', none, some '‚', some 'ƒ', some '„', some '…', some '†', some '‡',
   some 'ˆ', some '‰', some 'Š', some '‹', some 'Œ', none, some 'Ž', none,
   none, some '‘', some '’', some '“', some '”', some '•', some '–', some '—',
   some '˜', some '™', some 'š', some '›', some 'œ', none, some 'ž', some 'Ÿ']

def windows1252 : Table :=
  ⟨"charmap", fun b =>
    if 0x80 ≤ b.toNat && b.toNat < 0xA0 then (windowsUpper[b.toNat - 0x80]?).join
    else some (Char.ofNat b.toNat), .undefinedByte⟩

end Apidoc.Encoding.SingleByte
