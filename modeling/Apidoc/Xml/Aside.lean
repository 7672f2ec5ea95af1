import Apidoc.Xml.Char

/-!
Asides: comments and processing instructions. They add nothing to a document, but they have to be
well-formed.
-/
namespace Apidoc.Xml

inductive Aside where
  | commentStart
  | comment (dashes : Nat)
  | target (name : List Char)
  | targetEnd (name : List Char)
  | instruction (name : List Char) (afterMark : Bool)
  deriving DecidableEq, Repr

inductive AsideStep where
  | more (aside : Aside)
  | done (declaration : Bool)
  deriving DecidableEq, Repr

def isDeclarationTarget (name : List Char) : Bool :=
  name == "xml".toList

/-- Whether the name of an instruction is reserved: that of the XML declaration in other case. -/
def isReservedTarget (name : List Char) : Bool :=
  !isDeclarationTarget name && name.map Char.toLower == "xml".toList

namespace Aside

/-- Reads one more character; none if the aside cannot go on with it. -/
def step : Aside → Char → Option AsideStep
  | .commentStart, c => if c == '-' then some (.more (.comment 0)) else none
  | .comment dashes, c =>
    if dashes ≥ 2 then if c == '>' then some (.done false) else none
    else if c == '-' then some (.more (.comment (dashes + 1)))
    else if isLegal c then some (.more (.comment 0))
    else none
  | .target [], c => if isNameStart c then some (.more (.target [c])) else none
  | .target name, c =>
    if isNameChar c then some (.more (.target (name ++ [c])))
    else if isReservedTarget name then none
    else if isSpace c then some (.more (.instruction name false))
    else if c == '?' then some (.more (.targetEnd name))
    else none
  | .targetEnd name, c => if c == '>' then some (.done (isDeclarationTarget name)) else none
  | .instruction name afterMark, c =>
    if afterMark && c == '>' then some (.done (isDeclarationTarget name))
    else if c == '?' then some (.more (.instruction name true))
    else if isLegal c then some (.more (.instruction name false))
    else none

end Aside

end Apidoc.Xml
