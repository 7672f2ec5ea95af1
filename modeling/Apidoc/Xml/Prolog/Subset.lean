import Apidoc.Xml.Prolog.Token
import Apidoc.Xml.Value

/-!
The document type declaration: what its tokens may follow each other, and what they declare.
-/
namespace Apidoc.Xml.Prolog

inductive Place where
  | before (first : Bool)
  | doctypeName
  | afterDoctypeName
  | doctypePublic
  | doctypeSystem
  | afterDoctypeSystem
  | subset
  | afterSubset
  | after
  | entityStart
  | parameterName
  | entityBody (name : Option (List Char))
  | entityPublic (name : Option (List Char))
  | entitySystem (name : Option (List Char))
  | entityExternal (name : Option (List Char))
  | entityNotation (name : Option (List Char))
  | notationName
  | notationBody
  | notationPublic
  | notationSystem
  | notationEnd
  | attlistElement
  | attlistName (tag : List Char)
  | attlistType (tag key : List Char)
  | attlistChoice (tag key : List Char)
  | attlistChoiceEnd (tag key : List Char)
  | attlistNotation (tag key : List Char)
  | attlistNotationChoice (tag key : List Char)
  | attlistNotationEnd (tag key : List Char)
  | attlistDefault (tag key : List Char) (plain : Bool)
  | attlistFixed (tag key : List Char) (plain : Bool)
  | elementName
  | elementBody
  | groupStart
  | mixed
  | mixedName
  | mixedEnd
  | groupItem (connectors : List (Option Token))
  | groupNext (connectors : List (Option Token))
  | declarationEnd
  deriving DecidableEq, Repr

/-- What the prolog has said so far. After a parameter entity that is not read, declarations of
entities and attributes are no longer active: they do not count, and their values are not looked at.
-/
structure Survey where
  place : Place
  entities : List (List Char × Entity)
  rules : List AttributeRule
  standalone : Bool
  unread : Bool
  active : Bool

namespace Survey

def initial : Survey := ⟨.before true, [], [], false, false, true⟩

def doctype (survey : Survey) : Doctype :=
  ⟨survey.entities, survey.rules, survey.unread && !survey.standalone⟩

def moveTo (survey : Survey) (place : Place) : Survey := { survey with place }

/-- Declares a general entity, unless it has been declared or needs no declaration. -/
def declare (survey : Survey) (name : Option (List Char)) (entity : Entity) : Survey :=
  match name with
  | none => survey
  | some name =>
    if survey.active && (predefined? name).isNone && !survey.entities.any (·.1 == name) then
      { survey with entities := survey.entities ++ [(name, entity)] }
    else survey

def declareRule (survey : Survey) (rule : AttributeRule) : Survey :=
  if survey.active && !survey.rules.any fun r => r.tag == rule.tag && r.key == rule.key then
    { survey with rules := survey.rules ++ [rule] }
  else survey

end Survey

def isPublicIdChar (c : Char) : Bool :=
  c.isAlphanum || " \r\n-'()+,./:=?;!*#@$_%".toList.contains c

def checkPublicId (chars : List Char) (left : Nat) : Except Fault PUnit :=
  let good := chars.takeWhile isPublicIdChar
  if good.length < chars.length then .error ⟨.badPublicId, left - 1 - good.length⟩ else .ok ()

/-- The replacement text of an entity: references to characters are replaced, those to entities
stay, and line ends become line feeds. `left` counts from the first character of the text to the
end of the document. -/
def replacementChars (pending : Option (Reference × List Char)) (afterReturn : Bool) (left : Nat) :
    List Char → Except Fault (List Char)
  | [] =>
    match pending with
    | none => .ok []
    | some (_, chars) => .error ⟨.invalidToken, left + chars.length⟩
  | c :: rest =>
    match pending with
    | some (reference, chars) =>
      match reference.step c with
      | none => .error ⟨.invalidToken, left⟩
      | some (.inl reference) =>
        replacementChars (some (reference, chars ++ [c])) false (left - 1) rest
      | some (.inr (.named _)) => do
        return chars ++ c :: (← replacementChars none false (left - 1) rest)
      | some (.inr (.number n)) =>
        match charOfNumber? n with
        | none => .error ⟨.badCharacterNumber, left + chars.length⟩
        | some d => do return d :: (← replacementChars none false (left - 1) rest)
    | none =>
      if c == '&' then replacementChars (some (.start, [c])) false (left - 1) rest
      else if c == '%' then
        match rest.dropWhile isNameChar with
        | ';' :: _ =>
          if rest.head?.any isNameStart then .error ⟨.parameterReference, left⟩
          else .error ⟨.invalidToken, left - 1⟩
        | stop =>
          if rest.head?.any isNameStart then
            if stop.isEmpty then .error ⟨.invalidToken, left⟩
            else .error ⟨.invalidToken, left - 1 - (rest.length - stop.length)⟩
          else if rest.isEmpty then .error ⟨.invalidToken, left⟩
          else .error ⟨.invalidToken, left - 1⟩
      else if c == '\r' then do
        return '\n' :: (← replacementChars none true (left - 1) rest)
      else if c == '\n' && afterReturn then replacementChars none false (left - 1) rest
      else do return c :: (← replacementChars none false (left - 1) rest)

/-- The default value of an attribute, from a literal that starts `left` characters before the end
of the document. What is wrong first counts. -/
def defaultValue (survey : Survey) (plain : Bool) (chars : List Char) (left : Nat) :
    Except Fault (List Char) := do
  let (pieces, wrong) := ValueReader.start.readAll .document 1 chars
  let value ← (valueText survey.doctype [] pieces).mapError fun fault =>
    ⟨fault.reason, left - fault.offset⟩
  if let some offset := wrong then throw ⟨.invalidToken, left - offset⟩
  return if plain then value else collapseSpaces value

def attributeTypes : List (List Char) :=
  ["CDATA", "ID", "IDREF", "IDREFS", "ENTITY", "ENTITIES", "NMTOKEN", "NMTOKENS"].map String.toList

/-- Takes in a token that starts `left` characters before the end of the document. -/
def Survey.take (survey : Survey) (token : Token) (left : Nat) : Except Fault Survey :=
  let go := fun place => (.ok (survey.moveTo place) : Except Fault Survey)
  let refuse : Except Fault Survey :=
    match token with
    | .parameter => .error ⟨.parameterReference, left⟩
    | .aside true => .error ⟨.misplacedDeclaration, left⟩
    | _ => .error ⟨.syntaxError, left⟩
  let isWord := fun (word : String) (chars : List Char) => chars == word.toList
  match survey.place, token with
  | .before _, .blank => go (.before false)
  | .before _, .aside false => go (.before false)
  | .before _, .declaration word =>
    if isWord "DOCTYPE" word then go .doctypeName else refuse
  | .after, .aside false => .ok survey
  | .subset, .aside false => .ok survey
  | _, .blank => .ok survey
  | .doctypeName, .name _ .simple => go .afterDoctypeName
  | .doctypeName, .name _ .prefixed => go .afterDoctypeName
  | .afterDoctypeName, .openBracket => go .subset
  | .afterDoctypeName, .close => go .after
  | .afterDoctypeName, .name chars .simple =>
    if isWord "SYSTEM" chars then go .doctypeSystem
    else if isWord "PUBLIC" chars then go .doctypePublic
    else refuse
  | .doctypePublic, .literal chars => do
    checkPublicId chars left
    go .doctypeSystem
  | .doctypeSystem, .literal _ => .ok { survey with place := .afterDoctypeSystem, unread := true }
  | .afterDoctypeSystem, .openBracket => go .subset
  | .afterDoctypeSystem, .close => go .after
  | .subset, .declaration word =>
    if isWord "ENTITY" word then go .entityStart
    else if isWord "ATTLIST" word then go .attlistElement
    else if isWord "ELEMENT" word then go .elementName
    else if isWord "NOTATION" word then go .notationName
    else refuse
  | .subset, .parameter => .ok { survey with unread := true, active := survey.standalone }
  | .subset, .closeBracket => go .afterSubset
  | .afterSubset, .close => go .after
  | .entityStart, .percent => go .parameterName
  | .entityStart, .name chars .simple => go (.entityBody (some chars))
  | .parameterName, .name _ .simple => go (.entityBody none)
  | .entityBody name, .name chars .simple =>
    if isWord "SYSTEM" chars then go (.entitySystem name)
    else if isWord "PUBLIC" chars then go (.entityPublic name)
    else refuse
  | .entityBody name, .literal chars => do
    if !survey.active then return survey.moveTo .declarationEnd
    let text ← replacementChars none false (left - 1) chars
    return (survey.declare name (.internal text)).moveTo .declarationEnd
  | .entityPublic name, .literal chars => do
    checkPublicId chars left
    go (.entitySystem name)
  | .entitySystem name, .literal _ => go (.entityExternal name)
  | .entityExternal name, .close => .ok ((survey.declare name .external).moveTo .subset)
  | .entityExternal (some name), .name chars .simple =>
    if isWord "NDATA" chars then go (.entityNotation (some name)) else refuse
  | .entityNotation name, .name _ .simple =>
    .ok ((survey.declare name .unparsed).moveTo .declarationEnd)
  | .notationName, .name _ .simple => go .notationBody
  | .notationBody, .name chars .simple =>
    if isWord "SYSTEM" chars then go .notationSystem
    else if isWord "PUBLIC" chars then go .notationPublic
    else refuse
  | .notationPublic, .literal chars => do
    checkPublicId chars left
    go .notationEnd
  | .notationSystem, .literal _ => go .declarationEnd
  | .notationEnd, .literal _ => go .declarationEnd
  | .notationEnd, .close => go .subset
  | .attlistElement, .name chars .simple => go (.attlistName chars)
  | .attlistElement, .name chars .prefixed => go (.attlistName chars)
  | .attlistName _, .close => go .subset
  | .attlistName tag, .name chars .simple => go (.attlistType tag chars)
  | .attlistName tag, .name chars .prefixed => go (.attlistType tag chars)
  | .attlistType tag key, .name chars .simple =>
    if attributeTypes.contains chars then go (.attlistDefault tag key (isWord "CDATA" chars))
    else if isWord "NOTATION" chars then go (.attlistNotation tag key)
    else refuse
  | .attlistType tag key, .openParen => go (.attlistChoice tag key)
  | .attlistChoice tag key, .name _ _ => go (.attlistChoiceEnd tag key)
  | .attlistChoiceEnd tag key, .closeParen none => go (.attlistDefault tag key false)
  | .attlistChoiceEnd tag key, .bar => go (.attlistChoice tag key)
  | .attlistNotation tag key, .openParen => go (.attlistNotationChoice tag key)
  | .attlistNotationChoice tag key, .name _ .simple => go (.attlistNotationEnd tag key)
  | .attlistNotationEnd tag key, .closeParen none => go (.attlistDefault tag key false)
  | .attlistNotationEnd tag key, .bar => go (.attlistNotationChoice tag key)
  | .attlistDefault tag key plain, .keyword chars =>
    if isWord "IMPLIED" chars || isWord "REQUIRED" chars then
      .ok ((survey.declareRule ⟨tag, key, plain, none⟩).moveTo (.attlistName tag))
    else if isWord "FIXED" chars then go (.attlistFixed tag key plain)
    else refuse
  | .attlistDefault tag key plain, .literal chars => do
    if !survey.active then return survey.moveTo (.attlistName tag)
    let value ← defaultValue survey plain chars left
    return (survey.declareRule ⟨tag, key, plain, some value⟩).moveTo (.attlistName tag)
  | .attlistFixed tag key plain, .literal chars => do
    if !survey.active then return survey.moveTo (.attlistName tag)
    let value ← defaultValue survey plain chars left
    return (survey.declareRule ⟨tag, key, plain, some value⟩).moveTo (.attlistName tag)
  | .elementName, .name _ .simple => go .elementBody
  | .elementName, .name _ .prefixed => go .elementBody
  | .elementBody, .name chars .simple =>
    if isWord "EMPTY" chars || isWord "ANY" chars then go .declarationEnd else refuse
  | .elementBody, .openParen => go .groupStart
  | .groupStart, .keyword chars => if isWord "PCDATA" chars then go .mixed else refuse
  | .groupStart, .openParen => go (.groupItem [none, none])
  | .groupStart, .name _ .simple => go (.groupNext [none])
  | .groupStart, .name _ .prefixed => go (.groupNext [none])
  | .groupStart, .repeated _ => go (.groupNext [none])
  | .mixed, .closeParen none => go .declarationEnd
  | .mixed, .closeParen (some '*') => go .declarationEnd
  | .mixed, .bar => go .mixedName
  | .mixedName, .name _ .simple => go .mixedEnd
  | .mixedName, .name _ .prefixed => go .mixedEnd
  | .mixedEnd, .closeParen (some '*') => go .declarationEnd
  | .mixedEnd, .bar => go .mixedName
  | .groupItem connectors, .openParen => go (.groupItem (none :: connectors))
  | .groupItem connectors, .name _ .simple => go (.groupNext connectors)
  | .groupItem connectors, .name _ .prefixed => go (.groupNext connectors)
  | .groupItem connectors, .repeated _ => go (.groupNext connectors)
  | .groupNext (connector :: outer), .comma =>
    if connector = some .bar then refuse else go (.groupItem (some .comma :: outer))
  | .groupNext (connector :: outer), .bar =>
    if connector = some .comma then refuse else go (.groupItem (some .bar :: outer))
  | .groupNext [_], .closeParen _ => go .declarationEnd
  | .groupNext (_ :: outer), .closeParen _ => go (.groupNext outer)
  | .declarationEnd, .close => go .subset
  | _, _ => refuse

end Apidoc.Xml.Prolog
