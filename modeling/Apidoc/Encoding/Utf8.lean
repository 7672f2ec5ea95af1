import Apidoc.Encoding.Fault

/-!
UTF-8: one to four bytes for a character. Only the shortest form of a character is read, and no
surrogates.
-/
namespace Apidoc.Encoding.Utf8

/-- A character of which some bytes have been read: `more` are still to come after the next, which
is from `low` to `high`. -/
structure Pending where
  lead : UInt8
  seen : Nat
  more : Nat
  bits : Nat
  low : Nat
  high : Nat

def Pending.ofLead? (lead : UInt8) : Option Pending :=
  let n := lead.toNat
  if n < 0xC2 then none
  else if n < 0xE0 then some ⟨lead, 1, 0, n % 32, 0x80, 0xBF⟩
  else if n < 0xF0 then
    some ⟨lead, 1, 1, n % 16, if n = 0xE0 then 0xA0 else 0x80, if n = 0xED then 0x9F else 0xBF⟩
  else if n < 0xF5 then
    some ⟨lead, 1, 2, n % 8, if n = 0xF0 then 0x90 else 0x80, if n = 0xF4 then 0x8F else 0xBF⟩
  else none

def Pending.fault (p : Pending) (position : Nat) (reason : Reason) : Fault :=
  ⟨"utf-8", p.lead, position - p.seen, p.seen, reason⟩

/-- Reads bytes after `position` others, the last of which may have begun a character. -/
def read (position : Nat) : Option Pending → List UInt8 → Except Fault (List Char)
  | none, [] => .ok []
  | some p, [] => .error (p.fault position .unexpectedEnd)
  | none, b :: rest =>
    if b.toNat < 0x80 then (read (position + 1) none rest).map (Char.ofNat b.toNat :: ·)
    else
      match Pending.ofLead? b with
      | none => .error ⟨"utf-8", b, position, 1, .invalidStart⟩
      | some p => read (position + 1) (some p) rest
  | some p, b :: rest =>
    if p.low ≤ b.toNat && b.toNat ≤ p.high then
      let bits := p.bits * 64 + b.toNat % 64
      match p.more with
      | 0 => (read (position + 1) none rest).map (Char.ofNat bits :: ·)
      | more + 1 => read (position + 1) (some ⟨p.lead, p.seen + 1, more, bits, 0x80, 0xBF⟩) rest
    else .error (p.fault position .invalidContinuation)

def decode (bytes : List UInt8) : Except Fault (List Char) :=
  read 0 none bytes

def mark : List UInt8 := [0xEF, 0xBB, 0xBF]

/-- The text that bytes stand for after a byte order mark, which may be missing or cut short.
Places are counted from behind the mark. -/
def decodeMarked (bytes : List UInt8) : Except Fault (List Char) :=
  if bytes.isPrefixOf mark then .ok []
  else if mark.isPrefixOf bytes then decode (bytes.drop 3)
  else decode bytes

end Apidoc.Encoding.Utf8
