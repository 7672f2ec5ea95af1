/-!
What can be wrong with an XML text, and where.

A fault is placed by the number of characters from it to the end of the text, which a reader of
the text knows without counting what it has read; the line and the column follow from that.
-/
namespace Apidoc.Xml

inductive Reason where
  | invalidToken
  | unclosedToken
  | unclosedCdata
  | noElement
  | mismatchedTag
  | duplicateAttribute
  | undefinedEntity
  | skippedEntity (name : List Char)
  | recursiveEntity
  | tooHeavy
  | asynchronousEntity
  | binaryEntity
  | externalEntityInAttribute
  | badCharacterNumber
  | unboundPrefix
  | undeclaredPrefix
  | reservedXmlPrefix
  | reservedXmlnsPrefix
  | reservedNamespace
  | misplacedDeclaration
  | malformedDeclaration
  | parameterReference
  | badPublicId
  | syntaxError
  | junkAfterRoot
  deriving DecidableEq, Repr

/-- The first `limit` bytes of a text in UTF-8; a replacement stands for a character that is cut. -/
def firstBytes : (limit : Nat) → List Char → List Char
  | _, [] => []
  | limit, c :: rest =>
    if c.utf8Size ≤ limit then c :: firstBytes (limit - c.utf8Size) rest
    else if limit = 0 then []
    else ['\uFFFD']

def referenceLimit : Nat := 100

def Reason.message : Reason → String
  | .invalidToken => "not well-formed (invalid token)"
  | .unclosedToken => "unclosed token"
  | .unclosedCdata => "unclosed CDATA section"
  | .noElement => "no element found"
  | .mismatchedTag => "mismatched tag"
  | .duplicateAttribute => "duplicate attribute"
  | .undefinedEntity => "undefined entity"
  | .skippedEntity name =>
    "undefined entity " ++ String.ofList (firstBytes referenceLimit ('&' :: name ++ [';']))
  | .recursiveEntity => "recursive entity reference"
  | .tooHeavy => "limit on input amplification factor (from DTD and entities) breached"
  | .asynchronousEntity => "asynchronous entity"
  | .binaryEntity => "reference to binary entity"
  | .externalEntityInAttribute => "reference to external entity in attribute"
  | .badCharacterNumber => "reference to invalid character number"
  | .unboundPrefix => "unbound prefix"
  | .undeclaredPrefix => "must not undeclare prefix"
  | .reservedXmlPrefix =>
    "reserved prefix (xml) must not be undeclared or bound to another namespace name"
  | .reservedXmlnsPrefix => "reserved prefix (xmlns) must not be declared or undeclared"
  | .reservedNamespace => "prefix must not be bound to one of the reserved namespace names"
  | .misplacedDeclaration => "XML or text declaration not at start of entity"
  | .malformedDeclaration => "XML declaration not well-formed"
  | .parameterReference => "illegal parameter entity reference"
  | .badPublicId => "illegal character(s) in public id"
  | .syntaxError => "syntax error"
  | .junkAfterRoot => "junk after document element"

structure Fault where
  reason : Reason
  left : Nat
  deriving DecidableEq, Repr

structure Position where
  line : Nat
  column : Nat
  deriving DecidableEq, Repr

/-- The place that follows `text` when it starts at `p`. A carriage return with a line feed ends
one line, each of them alone as well. -/
def Position.after (p : Position) : List Char → Position
  | [] => p
  | '\r' :: '\n' :: rest => Position.after ⟨p.line + 1, 0⟩ rest
  | c :: rest =>
    if c == '\n' || c == '\r' then Position.after ⟨p.line + 1, 0⟩ rest
    else Position.after ⟨p.line, p.column + 1⟩ rest

def Fault.position (fault : Fault) (text : List Char) : Position :=
  Position.after ⟨1, 0⟩ (text.take (text.length - fault.left))

def Fault.message (fault : Fault) (text : List Char) : String :=
  let p := fault.position text
  s!"{fault.reason.message}: line {p.line}, column {p.column}"

end Apidoc.Xml
