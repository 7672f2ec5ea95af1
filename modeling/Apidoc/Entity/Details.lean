import Apidoc.Comment
import Apidoc.Entity.Kind

/-!
What a comment says about an entity of a given kind.
-/
namespace Apidoc

namespace Comment

def body? (c : Option Comment) (tag : String) : Option String :=
  (c.bind (·.passage? tag)).map Passage.body

end Comment

structure ParameterNote where
  name : String
  description : String
  deriving DecidableEq, Repr

structure ExceptionNote where
  cref : Option String
  description : String
  deriving DecidableEq, Repr

def Comment.parameterNotes (c : Option Comment) (tag : String) : List ParameterNote :=
  (c.toList.flatMap (·.passages tag)).filterMap fun p =>
    (p.attribute? "name").map fun name => ⟨name, Passage.body p⟩

def Comment.exceptionNotes (c : Option Comment) : List ExceptionNote :=
  (c.toList.flatMap (·.passages "exception")).map fun p => ⟨p.attribute? "cref", Passage.body p⟩

inductive Details where
  | space
  | type (typeParameters : List ParameterNote)
  | method (typeParameters parameters : List ParameterNote) (exceptions : List ExceptionNote)
      (returns : Option String)
  | property (parameters : List ParameterNote) (exceptions : List ExceptionNote)
      (value : Option String)
  | field
  | event
  | sample (descriptions : List (Option String))
  deriving DecidableEq, Repr

namespace Details

def kind : Details → Kind
  | space => .space
  | type _ => .type
  | method _ _ _ _ => .method
  | property _ _ _ => .property
  | field => .field
  | event => .event
  | sample _ => .sample

def initial : Kind → Details
  | .space => space
  | .type => type []
  | .method => method [] [] [] none
  | .property => property [] [] none
  | .field => field
  | .event => event
  | .sample => sample []

/-- The details that a comment gives in place of others. Only samples keep what they had. -/
def derive (c : Option Comment) : Details → Details
  | type _ => type (Comment.parameterNotes c "typeparam")
  | method _ _ _ _ =>
    method (Comment.parameterNotes c "typeparam") (Comment.parameterNotes c "param")
      (Comment.exceptionNotes c) (Comment.body? c "returns")
  | property _ _ _ =>
    property (Comment.parameterNotes c "param") (Comment.exceptionNotes c)
      (Comment.body? c "value")
  | sample descriptions => sample (descriptions ++ [Comment.body? c "summary"])
  | other => other

def withReturns (returns : Option String) : Details → Details
  | method typeParameters parameters exceptions _ =>
    method typeParameters parameters exceptions returns
  | other => other

def withValue (value : Option String) : Details → Details
  | property parameters exceptions _ => property parameters exceptions value
  | other => other

theorem kind_initial (kind : Kind) : (initial kind).kind = kind := by
  cases kind <;> rfl

theorem kind_derive (c : Option Comment) (d : Details) : (d.derive c).kind = d.kind := by
  cases d <;> rfl

end Details

end Apidoc
