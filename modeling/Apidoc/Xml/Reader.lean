import Apidoc.Xml.Aside
import Apidoc.Xml.Tag

/-!
Reading the root element of a document, one character at a time.

The reader is a machine: a `State` holds the elements that are open and what is being read, `step`
takes one character, and `readRoot` goes through a text until the root is closed. A state knows
nothing of what lies behind it except the open elements, so reading a text in pieces is the same
as reading it at once.
-/
namespace Apidoc.Xml

/-- An element that has been opened and not closed, with its content so far, last first. -/
structure Frame where
  label : List Char
  tag : Name
  attributes : List Attribute
  scope : Scope
  content : Content
  deriving DecidableEq, Repr

def Frame.close (frame : Frame) : Element :=
  ⟨frame.tag, frame.attributes, frame.content.reverse⟩

/-- What is being read. Text counts the closing brackets just read, and a CDATA section those that
are held back, two at most. -/
inductive Mode where
  | text (brackets : Nat) (afterReturn : Bool)
  | reference (reference : Reference)
  | less
  | bang
  | aside (aside : Aside)
  | cdataOpening (seen : List Char)
  | cdata (brackets : Nat) (afterReturn : Bool)
  | startTag (tag : Tag)
  | endTag (label : List Char) (spaced : Bool)
  deriving DecidableEq, Repr

/-- Where the reader stands: the open elements, innermost first, what is being read, and how many
characters of it have been read. -/
structure State where
  frames : List Frame
  mode : Mode
  length : Nat
  deriving DecidableEq, Repr

/-- A reason with the distance from the last character read back to what is wrong. -/
structure StepFault where
  reason : Reason
  back : Nat
  deriving DecidableEq, Repr

/-- What surrounds the text that is being read: the declarations of the document, the names of the
entities whose replacement texts it stands in, innermost first, and the number of elements that
were open before it, which it cannot close. -/
structure Surroundings where
  doctype : Doctype
  active : List (List Char)
  base : Nat
  deriving DecidableEq, Repr

namespace Surroundings

def document (doctype : Doctype) : Surroundings := ⟨doctype, [], 0⟩

def origin (around : Surroundings) : Origin :=
  if around.active.isEmpty then .document else .entity

def inside (around : Surroundings) (name : List Char) (base : Nat) : Surroundings :=
  ⟨around.doctype, name :: around.active, base⟩

end Surroundings

inductive Progress where
  | more (state : State)
  | closed (root : Element)
  deriving DecidableEq, Repr

def Mode.start : Mode := .text 0 false

def addChar (c : Char) : List Frame → List Frame
  | [] => []
  | frame :: rest => { frame with content := .char c frame.content } :: rest

def addElement (e : Element) : List Frame → List Frame
  | [] => []
  | frame :: rest => { frame with content := e.onto frame.content } :: rest

def scopeOf : List Frame → Scope
  | [] => .outermost
  | frame :: _ => frame.scope

def cdataMarker : List Char := "CDATA[".toList

namespace State

def initial : State := ⟨[], .start, 0⟩

def between (frames : List Frame) : State := ⟨frames, .start, 0⟩

def moveTo (s : State) (mode : Mode) : State := ⟨s.frames, mode, s.length + 1⟩

def here {α : Type} (reason : Reason) : Except StepFault α := .error ⟨reason, 0⟩

def within {α : Type} (s : State) (reason : Reason) (offset : Nat) : Except StepFault α :=
  .error ⟨reason, s.length - offset⟩

def stepText (origin : Origin) (s : State) (brackets : Nat) (afterReturn : Bool) (c : Char) :
    Except StepFault State :=
  let keep := fun mode c => .ok ⟨addChar c s.frames, mode, 0⟩
  if c == '<' then .ok ⟨s.frames, .less, 1⟩
  else if c == '&' then .ok ⟨s.frames, .reference .start, 1⟩
  else if c == ']' then keep (.text (brackets + 1) false) c
  else if c == '>' && brackets ≥ 2 then here .invalidToken
  else if c == '\r' && origin = .document then keep (.text 0 true) '\n'
  else if c == '\n' && afterReturn then .ok (between s.frames)
  else if isLegal c then keep .start c
  else here .invalidToken

def stepCdata (origin : Origin) (s : State) (brackets : Nat) (afterReturn : Bool) (c : Char) :
    Except StepFault State :=
  let held := Nat.repeat (addChar ']') brackets s.frames
  if c == ']' then
    if brackets ≥ 2 then .ok ⟨addChar ']' s.frames, .cdata 2 false, 0⟩
    else .ok ⟨s.frames, .cdata (brackets + 1) false, 0⟩
  else if c == '>' && brackets ≥ 2 then .ok (between s.frames)
  else if c == '\r' && origin = .document then .ok ⟨addChar '\n' held, .cdata 0 true, 0⟩
  else if c == '\n' && afterReturn then .ok ⟨s.frames, .cdata 0 false, 0⟩
  else if isLegal c then .ok ⟨addChar c held, .cdata 0 false, 0⟩
  else here .invalidToken

/-- One more character after `<![`. The marker is judged once as many bytes as it has are there. -/
def stepCdataOpening (s : State) (seen : List Char) (c : Char) : Except StepFault State :=
  let seen := seen ++ [c]
  if utf8Size seen < cdataMarker.length then .ok (s.moveTo (.cdataOpening seen))
  else if seen == cdataMarker then .ok ⟨s.frames, .cdata 0 false, 0⟩
  else
    let agreeing := ((seen.zip cdataMarker).takeWhile fun p => p.1 == p.2).length
    .error ⟨.invalidToken, seen.length - 1 - agreeing⟩

def refer (doctype : Doctype)
    (replace : List Char → List Char → List Frame → Except Reason (List Frame))
    (s : State) : Target → Except StepFault State
  | .number n =>
    match charOfNumber? n with
    | some c => .ok (between (addChar c s.frames))
    | none => s.within .badCharacterNumber 0
  | .named name =>
    match predefined? name with
    | some c => .ok (between (addChar c s.frames))
    | none =>
      match doctype.entity? name with
      | none =>
        if doctype.incomplete then s.within (.skippedEntity name) 0
        else s.within .undefinedEntity 0
      | some .unparsed => s.within .binaryEntity 0
      | some .external => s.within (.skippedEntity name) 0
      | some (.internal text) =>
        match replace name text s.frames with
        | .ok frames => .ok (between frames)
        | .error reason => s.within reason 0

def openElement (around : Surroundings) (s : State) (label : List Char)
    (attributes : List RawAttribute) (selfClosing : Bool) : Except StepFault Progress :=
  match Opening.resolve around.doctype around.active (scopeOf s.frames) label attributes with
  | .error fault => s.within fault.reason fault.offset
  | .ok opening =>
    if selfClosing then
      let e : Element := ⟨opening.tag, opening.attributes, .empty⟩
      if s.frames.isEmpty then .ok (.closed e) else .ok (.more (between (addElement e s.frames)))
    else
      let frame : Frame := ⟨label, opening.tag, opening.attributes, opening.scope, .empty⟩
      .ok (.more (between (frame :: s.frames)))

/-- What a whole end tag does. The outer `base` elements cannot be closed here. -/
def closeElement (base : Nat) (s : State) (label : List Char) : Except StepFault Progress :=
  if s.frames.length = base then s.within .asynchronousEntity 0
  else
    match s.frames with
    | [] => s.within .asynchronousEntity 0
    | frame :: rest =>
      if frame.label ≠ label then s.within .mismatchedTag 2
      else if rest.isEmpty then .ok (.closed frame.close)
      else .ok (.more (between (addElement frame.close rest)))

def step (around : Surroundings)
    (replace : List Char → List Char → List Frame → Except Reason (List Frame))
    (s : State) (c : Char) : Except StepFault Progress :=
  match s.mode with
  | .text brackets afterReturn => (s.stepText around.origin brackets afterReturn c).map .more
  | .reference reference =>
    match reference.step c with
    | none => here .invalidToken
    | some (.inl reference) => .ok (.more (s.moveTo (.reference reference)))
    | some (.inr target) => (s.refer around.doctype replace target).map .more
  | .less =>
    if isNameStart c then .ok (.more (s.moveTo (.startTag (.start c))))
    else if c == '/' then .ok (.more (s.moveTo (.endTag [] false)))
    else if c == '!' then .ok (.more (s.moveTo .bang))
    else if c == '?' then .ok (.more (s.moveTo (.aside (.target []))))
    else here .invalidToken
  | .bang =>
    if c == '-' then .ok (.more (s.moveTo (.aside .commentStart)))
    else if c == '[' then .ok (.more (s.moveTo (.cdataOpening [])))
    else here .invalidToken
  | .aside aside =>
    match aside.step c with
    | none => here .invalidToken
    | some (.more aside) => .ok (.more (s.moveTo (.aside aside)))
    | some (.done declaration) =>
      if declaration then s.within .misplacedDeclaration 0 else .ok (.more (between s.frames))
  | .cdataOpening seen => (s.stepCdataOpening seen c).map .more
  | .cdata brackets afterReturn => (s.stepCdata around.origin brackets afterReturn c).map .more
  | .startTag tag =>
    match tag.step around.origin s.length c with
    | none => here .invalidToken
    | some (.more tag) => .ok (.more (s.moveTo (.startTag tag)))
    | some (.done label attributes selfClosing) =>
      s.openElement around label attributes selfClosing
  | .endTag label spaced =>
    if !spaced && (if label.isEmpty then isNameStart c else isNameChar c || c == ':') then
      .ok (.more (s.moveTo (.endTag (label ++ [c]) false)))
    else if label.isEmpty then here .invalidToken
    else if isSpace c then .ok (.more (s.moveTo (.endTag label true)))
    else if c == '>' then s.closeElement around.base label
    else here .invalidToken

def atEnd (s : State) : StepFault :=
  match s.mode with
  | .text _ afterReturn => ⟨.noElement, if afterReturn then 1 else 0⟩
  | .cdata brackets afterReturn => ⟨.unclosedCdata, if afterReturn then 1 else brackets⟩
  | _ => ⟨.unclosedToken, s.length⟩

/-- The open elements after the replacement text of an entity. Elements that it opens it has to
close, and no others. -/
def endEntity (base : Nat) (s : State) : Except Reason (List Frame) :=
  match s.mode with
  | .text _ _ =>
    if s.frames.length = base then .ok s.frames else .error .asynchronousEntity
  | _ => .error s.atEnd.reason

/-- Reads the replacement text of an entity from one state to the open elements after it. -/
def runEntity (advance : State → Char → Except StepFault Progress) (base : Nat) :
    State → List Char → Except Reason (List Frame)
  | s, [] => s.endEntity base
  | s, c :: rest =>
    match advance s c with
    | .error fault => .error fault.reason
    | .ok (.more s) => runEntity advance base s rest
    | .ok (.closed _) => .error .asynchronousEntity

end State

/-- Reads the replacement text of an entity. `depth` bounds the entities inside entities, of which
none may be inside itself; the outermost one is weighed with all that it refers to. -/
def readEntity : (depth : Nat) → Surroundings → (name text : List Char) → List Frame →
    Except Reason (List Frame)
  | 0, _, _, _, _ => .error .recursiveEntity
  | depth + 1, around, name, text, frames =>
    if around.active.contains name then .error .recursiveEntity
    else if around.active.isEmpty && around.doctype.isTooHeavy name text then .error .tooHeavy
    else
      let inside := around.inside name frames.length
      State.runEntity (State.step inside (readEntity depth inside)) frames.length
        (.between frames) text

def State.advance (doctype : Doctype) : State → Char → Except StepFault Progress :=
  let around := Surroundings.document doctype
  State.step around (readEntity doctype.entities.length around)

/-- Reads a text until the root element is closed; gives the root and the text after it. -/
def readRoot (doctype : Doctype) : State → List Char → Except Fault (Element × List Char)
  | s, [] => .error ⟨s.atEnd.reason, s.atEnd.back⟩
  | s, c :: rest =>
    match s.advance doctype c with
    | .error fault => .error ⟨fault.reason, rest.length + 1 + fault.back⟩
    | .ok (.more s) => readRoot doctype s rest
    | .ok (.closed root) => .ok (root, rest)

end Apidoc.Xml
