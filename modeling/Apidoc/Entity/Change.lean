import Apidoc.Entity

/-!
What can happen to an entity after it is made.
-/
namespace Apidoc.Entity

inductive Label where
  | id
  | name
  | fullName
  | stem
  | description
  | remarks
  | returns
  | value
  deriving DecidableEq, Repr

inductive Change where
  | setComment (comment : Option Comment)
  | derive
  | addSeeAlso (link : SeeAlso)
  | setTopic (topic : Option Topic)
  | assign (label : Label) (value : Option String)
  deriving DecidableEq, Repr

def assign (e : Entity) (label : Label) (value : Option String) : Entity :=
  match label with
  | .id => { e with id := value }
  | .name => { e with name := value }
  | .fullName => { e with fullName := value }
  | .stem => { e with stem := value }
  | .description => { e with description := value }
  | .remarks => { e with remarks := value }
  | .returns => { e with details := e.details.withReturns value }
  | .value => { e with details := e.details.withValue value }

def change (e : Entity) : Change → Entity
  | .setComment comment => e.setComment comment
  | .derive => e.derive
  | .addSeeAlso link => e.addSeeAlso link
  | .setTopic topic => { e with topic }
  | .assign label value => e.assign label value

def changes (e : Entity) (cs : List Change) : Entity :=
  cs.foldl change e

end Apidoc.Entity
