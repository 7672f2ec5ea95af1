import Apidoc.Entity.Details
import Apidoc.Entity.Link

/-!
Documented entities: namespaces, types and members. An entity has an identity, labels, and the
documentation that was derived from its comment when the comment was set.
-/
namespace Apidoc

structure Entity where
  id : Option String
  name : Option String
  fullName : Option String
  stem : Option String
  comment : Option Comment := none
  description : Option String := none
  remarks : Option String := none
  details : Details
  seeAlso : List SeeAlso := []
  topic : Option Topic := none
  deriving DecidableEq, Repr

namespace Entity

def new (kind : Kind) (id name fullName stem : Option String) : Entity :=
  { id, name, fullName, stem, details := .initial kind }

def kind (e : Entity) : Kind :=
  e.details.kind

def extract (e : Entity) (tag : String) : Option String :=
  Comment.body? e.comment tag

def derive (e : Entity) : Entity :=
  { e with
    description := e.extract "summary"
    remarks := e.extract "remarks"
    details := e.details.derive e.comment }

/-- Sets the comment, and derives the documentation from it unless it is taken away. -/
def setComment (e : Entity) : Option Comment → Entity
  | none => { e with comment := none }
  | some c => { e with comment := some c }.derive

def addSeeAlso (e : Entity) (link : SeeAlso) : Entity :=
  { e with seeAlso := e.seeAlso ++ [link] }

def linksOf (c : Comment) : List SeeAlso :=
  (c.passages "seealso").map fun p =>
    let label := Passage.body p
    ⟨p.attribute? "cref", p.attribute? "href", if label.isEmpty then none else some label⟩

def typeParameters (e : Entity) : List ParameterNote :=
  match e.details with
  | .type notes => notes
  | .method notes _ _ _ => notes
  | _ => []

def parameters (e : Entity) : List ParameterNote :=
  match e.details with
  | .method _ notes _ _ => notes
  | .property notes _ _ => notes
  | _ => []

def exceptions (e : Entity) : List ExceptionNote :=
  match e.details with
  | .method _ _ notes _ => notes
  | .property _ notes _ => notes
  | _ => []

def returns (e : Entity) : Option String :=
  match e.details with
  | .method _ _ _ returns => returns
  | _ => none

def value (e : Entity) : Option String :=
  match e.details with
  | .property _ _ value => value
  | _ => none

def same (a b : Entity) : Bool :=
  a.id == b.id

def shown (e : Entity) : String :=
  s!"{e.kind.label}(id={Text.quoted? e.id})"

end Entity

end Apidoc
