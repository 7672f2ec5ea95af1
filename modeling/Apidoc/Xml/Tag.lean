import Apidoc.Xml.Scope
import Apidoc.Xml.Value

/-!
Start tags: how they are read, character by character, and what a whole one says.
-/
namespace Apidoc.Xml

inductive Colon where
  | none
  | last
  | past
  deriving DecidableEq, Repr

structure Label where
  chars : List Char
  colon : Colon
  deriving DecidableEq, Repr

/-- Reads one more character of a name: the longer name, or none when the name ends before it, or
an error when no name can go on with it. -/
def Label.step (label : Label) (c : Char) : Except PUnit (Option Label) :=
  match label.colon with
  | .last =>
    if isNameStart c then .ok (some ⟨label.chars ++ [c], .past⟩) else .error ()
  | colon =>
    if isNameChar c then .ok (some ⟨label.chars ++ [c], colon⟩)
    else if c == ':' then
      if colon = .none then .ok (some ⟨label.chars ++ [c], .last⟩) else .error ()
    else .ok none

structure RawAttribute where
  label : List Char
  offset : Nat
  pieces : List ValuePiece
  deriving DecidableEq, Repr

inductive TagPart where
  | label (label : Label)
  | gap
  | attributeLabel (label : Label) (offset : Nat)
  | equals (label : List Char) (offset : Nat)
  | quote (label : List Char) (offset : Nat)
  | value (label : List Char) (offset : Nat) (quote : Char) (reader : ValueReader)
  | valueEnd
  | slash
  deriving DecidableEq, Repr

structure Tag where
  label : List Char
  attributes : List RawAttribute
  part : TagPart
  deriving DecidableEq, Repr

inductive TagStep where
  | more (tag : Tag)
  | done (label : List Char) (attributes : List RawAttribute) (selfClosing : Bool)
  deriving DecidableEq, Repr

namespace Tag

def start (c : Char) : Tag := ⟨[], [], .label ⟨[c], .none⟩⟩

/-- What may follow the name of a tag, a value or white space: white space, the end, or the slash
before it. -/
def afterPart (tag : Tag) (c : Char) : Option TagStep :=
  if isSpace c then some (.more { tag with part := .gap })
  else if c == '>' then some (.done tag.label tag.attributes false)
  else if c == '/' then some (.more { tag with part := .slash })
  else none

def afterAttributeLabel (tag : Tag) (label : List Char) (offset : Nat) (c : Char) :
    Option TagStep :=
  if isSpace c then some (.more { tag with part := .equals label offset })
  else if c == '=' then some (.more { tag with part := .quote label offset })
  else none

/-- Reads one more character, which stands at `offset` in the tag; none if a tag cannot go on with
it. -/
def step (origin : Origin) (tag : Tag) (offset : Nat) (c : Char) : Option TagStep :=
  match tag.part with
  | .label label =>
    match label.step c with
    | .error _ => none
    | .ok (some label) => some (.more { tag with part := .label label })
    | .ok none => { tag with label := label.chars }.afterPart c
  | .gap =>
    if isNameStart c then
      some (.more { tag with part := .attributeLabel ⟨[c], .none⟩ offset })
    else tag.afterPart c
  | .attributeLabel label start =>
    match label.step c with
    | .error _ => none
    | .ok (some label) => some (.more { tag with part := .attributeLabel label start })
    | .ok none => tag.afterAttributeLabel label.chars start c
  | .equals label start => tag.afterAttributeLabel label start c
  | .quote label start =>
    if isSpace c then some (.more tag)
    else if c == '"' || c == '\'' then
      some (.more { tag with part := .value label start c .start })
    else none
  | .value label start quote reader =>
    if c == quote && reader.mayEnd then
      some (.more
        { tag with
          attributes := tag.attributes ++ [⟨label, start, reader.pieces⟩]
          part := .valueEnd })
    else
      (reader.step origin offset c).map fun reader =>
        .more { tag with part := .value label start quote reader }
  | .valueEnd => tag.afterPart c
  | .slash => if c == '>' then some (.done tag.label tag.attributes true) else none

end Tag

/-- The attributes of a tag while they are worked through: the names met, the scope with the
declarations met, and the attributes that are no declarations. -/
structure TagSurvey where
  seen : List (List Char)
  scope : Scope
  kept : List (List Char × List Char)

namespace TagSurvey

def add (survey : TagSurvey) (label value : List Char) : Except Reason TagSurvey :=
  if label == xmlnsPrefix then do
    return { survey with seen := label :: survey.seen, scope := ← survey.scope.bind [] value }
  else
    match splitLabel label with
    | (some front, rest) =>
      if front == xmlnsPrefix then do
        return { survey with seen := label :: survey.seen, scope := ← survey.scope.bind rest value }
      else .ok { survey with seen := label :: survey.seen, kept := survey.kept ++ [(label, value)] }
    | (none, _) =>
      .ok { survey with seen := label :: survey.seen, kept := survey.kept ++ [(label, value)] }

def addGiven (doctype : Doctype) (active : List (List Char)) (tag : List Char)
    (survey : TagSurvey) :
    List RawAttribute → Except TagFault TagSurvey
  | [] => .ok survey
  | attr :: rest => do
    if survey.seen.contains attr.label then throw ⟨.duplicateAttribute, attr.offset⟩
    let value ← valueText doctype active attr.pieces
    let value := if doctype.keepsSpaces tag attr.label then value else collapseSpaces value
    let survey ← (survey.add attr.label value).mapError fun reason => ⟨reason, 0⟩
    addGiven doctype active tag survey rest

/-- Adds the declared attributes that the tag leaves out, in the order of their declarations. -/
def addDefaults (tag : List Char) (survey : TagSurvey) :
    List AttributeRule → Except TagFault TagSurvey
  | [] => .ok survey
  | rule :: rest =>
    match rule.default? with
    | some value =>
      if rule.tag == tag && !survey.seen.contains rule.key then do
        addDefaults tag (← (survey.add rule.key value).mapError fun reason => ⟨reason, 0⟩) rest
      else addDefaults tag survey rest
    | none => addDefaults tag survey rest

end TagSurvey

structure Opening where
  tag : Name
  attributes : List Attribute
  scope : Scope

def Opening.resolve (doctype : Doctype) (active : List (List Char)) (scope : Scope)
    (label : List Char) (attributes : List RawAttribute) : Except TagFault Opening := do
  let survey ← TagSurvey.addGiven doctype active label ⟨[], scope, []⟩ attributes
  let survey ← survey.addDefaults label doctype.rules
  let atStart := fun reason => (⟨reason, 0⟩ : TagFault)
  let attributes ← (expandAttributes survey.scope [] survey.kept).mapError atStart
  let tag ← (elementName survey.scope label).mapError atStart
  return ⟨tag, attributes, survey.scope⟩

end Apidoc.Xml
