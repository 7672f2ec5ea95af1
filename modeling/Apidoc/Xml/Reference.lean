import Apidoc.Xml.Char

/-!
References: an ampersand, then a name or a character number, then a semicolon.
-/
namespace Apidoc.Xml

inductive Reference where
  | start
  | name (chars : List Char)
  | hash
  | hexMark
  | decimal (n : Nat)
  | hexadecimal (n : Nat)
  deriving DecidableEq, Repr

inductive Target where
  | named (name : List Char)
  | number (n : Nat)
  deriving DecidableEq, Repr

def hexValue? (c : Char) : Option Nat :=
  if c.isDigit then some (c.toNat - '0'.toNat)
  else if 'a' ≤ c && c ≤ 'f' then some (c.toNat - 'a'.toNat + 10)
  else if 'A' ≤ c && c ≤ 'F' then some (c.toNat - 'A'.toNat + 10)
  else none

/-- Reads one more character of a reference; none if it cannot go on with that character. -/
def Reference.step : Reference → Char → Option (Reference ⊕ Target)
  | .start, c =>
    if c == '#' then some (.inl .hash)
    else if isNameStart c then some (.inl (.name [c]))
    else none
  | .name chars, c =>
    if c == ';' then some (.inr (.named chars))
    else if isNameChar c then some (.inl (.name (chars ++ [c])))
    else none
  | .hash, c =>
    if c == 'x' then some (.inl .hexMark)
    else if c.isDigit then some (.inl (.decimal (c.toNat - '0'.toNat)))
    else none
  | .hexMark, c => (hexValue? c).map fun d => .inl (.hexadecimal d)
  | .decimal n, c =>
    if c == ';' then some (.inr (.number n))
    else if c.isDigit then some (.inl (.decimal (10 * n + (c.toNat - '0'.toNat))))
    else none
  | .hexadecimal n, c =>
    if c == ';' then some (.inr (.number n))
    else (hexValue? c).map fun d => .inl (.hexadecimal (16 * n + d))

def charOfNumber? (n : Nat) : Option Char :=
  if h : n.isValidChar then
    let c := Char.ofNatAux n h
    if isLegal c then some c else none
  else none

def predefined? (name : List Char) : Option Char :=
  if name == "lt".toList then some '<'
  else if name == "gt".toList then some '>'
  else if name == "amp".toList then some '&'
  else if name == "quot".toList then some '"'
  else if name == "apos".toList then some '\''
  else none

end Apidoc.Xml
