import Apidoc.Text.Blank
import Apidoc.Xml.Doctype
import Apidoc.Xml.Fault
import Apidoc.Xml.Reference
import Apidoc.Xml.Weight

/-!
Attribute values: their pieces as they are read, and the text they stand for.
-/
namespace Apidoc.Xml

/-- Where a text stands. In the document a carriage return, with a line feed behind it or without,
is a line end. In the replacement text of an entity the line ends are line feeds already, and a
carriage return is a character that was given by its number. -/
inductive Origin where
  | document
  | entity
  deriving DecidableEq, Repr

/-- A piece of an attribute value; a reference keeps the offset at which it starts. -/
inductive ValuePiece where
  | char (c : Char)
  | reference (target : Target) (offset : Nat)
  deriving DecidableEq, Repr

structure ValueReader where
  pieces : List ValuePiece
  pending : Option (Reference × Nat)
  afterReturn : Bool
  deriving DecidableEq, Repr

namespace ValueReader

def start : ValueReader := ⟨[], none, false⟩

def mayEnd (r : ValueReader) : Bool :=
  r.pending.isNone

/-- Reads one more character, which stands at `offset`. White space becomes a space, and so does a
line end of two characters. -/
def step (origin : Origin) (r : ValueReader) (offset : Nat) (c : Char) : Option ValueReader :=
  match r.pending with
  | some (reference, start) =>
    match reference.step c with
    | none => none
    | some (.inl reference) => some { r with pending := some (reference, start) }
    | some (.inr target) => some ⟨r.pieces ++ [.reference target start], none, false⟩
  | none =>
    if c == '&' then some ⟨r.pieces, some (.start, offset), false⟩
    else if c == '<' || !isLegal c then none
    else if c == '\n' && r.afterReturn then some { r with afterReturn := false }
    else if isSpace c then
      some ⟨r.pieces ++ [.char ' '], none, c == '\r' && origin = .document⟩
    else some ⟨r.pieces ++ [.char c], none, false⟩

/-- Reads a whole text, which starts at `offset`, as a value: the pieces in front of the first
thing that is wrong, and the offset of that if there is one. A reference without its semicolon is
wrong from its ampersand on. -/
def readAll (origin : Origin) (r : ValueReader) (offset : Nat) :
    List Char → List ValuePiece × Option Nat
  | [] => (r.pieces, r.pending.map (·.2))
  | c :: rest =>
    match r.step origin offset c with
    | none => (r.pieces, some offset)
    | some r => r.readAll origin (offset + 1) rest

end ValueReader

structure TagFault where
  reason : Reason
  offset : Nat
  deriving DecidableEq, Repr

def ValuePiece.text (doctype : Doctype)
    (replacement : List Char → List Char → Except Reason (List Char)) :
    ValuePiece → Except TagFault (List Char)
  | .char c => .ok [c]
  | .reference (.number n) offset =>
    match charOfNumber? n with
    | none => .error ⟨.badCharacterNumber, offset⟩
    | some c => .ok [c]
  | .reference (.named name) offset =>
    match predefined? name with
    | some c => .ok [c]
    | none =>
      match doctype.entity? name with
      | none => if doctype.incomplete then .ok [] else .error ⟨.undefinedEntity, 0⟩
      | some .unparsed => .error ⟨.binaryEntity, offset⟩
      | some .external => .error ⟨.externalEntityInAttribute, offset⟩
      | some (.internal text) => (replacement name text).mapError fun reason => ⟨reason, 0⟩

def textOfPieces (text : ValuePiece → Except TagFault (List Char)) :
    List ValuePiece → Except TagFault (List Char)
  | [] => .ok []
  | piece :: rest => do return (← text piece) ++ (← textOfPieces text rest)

/-- The text that an entity's replacement text stands for inside a value. `depth` bounds the
entities inside entities, and `active` are the names of those that are being replaced: an entity
inside itself is refused, so a depth of the number of declared entities is never exhausted. The
outermost one is weighed with all that it refers to. What is wrong first counts. -/
def replacementText (doctype : Doctype) :
    (depth : Nat) → (active : List (List Char)) → (name text : List Char) →
      Except Reason (List Char)
  | 0, _, _, _ => .error .recursiveEntity
  | depth + 1, active, name, text =>
    if active.contains name then .error .recursiveEntity
    else if active.isEmpty && doctype.isTooHeavy name text then .error .tooHeavy
    else do
      let (pieces, wrong) := ValueReader.start.readAll .entity 0 text
      let text := (·.text doctype (replacementText doctype depth (name :: active)))
      let value ← (textOfPieces text pieces).mapError (·.reason)
      if wrong.isSome then throw .invalidToken
      return value

/-- The text that the pieces of a value stand for; `active` are the names of the entities in whose
replacement texts the value stands. -/
def valueText (doctype : Doctype) (active : List (List Char)) (pieces : List ValuePiece) :
    Except TagFault (List Char) :=
  textOfPieces (·.text doctype (replacementText doctype doctype.entities.length active)) pieces

def collapseSpaces (s : List Char) : List Char :=
  [' '].intercalate (Text.piecesBetween (· == ' ') s)

end Apidoc.Xml
