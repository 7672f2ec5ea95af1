import Apidoc.Xml.Doctype
import Apidoc.Xml.Reference

/-!
The weight of entities: how much text a reference comes to when all that it refers to is replaced.
A few short declarations can stand for more text than anyone could hold, so there is a limit.
-/
namespace Apidoc.Xml

def utf8Size : List Char → Nat
  | [] => 0
  | c :: rest => c.utf8Size + utf8Size rest

/-- The names of the entities that a text refers to; `pending` is the reference that is being
read. -/
def referredNames (pending : Option Reference) : List Char → List (List Char)
  | [] => []
  | c :: rest =>
    match pending with
    | none => referredNames (if c == '&' then some .start else none) rest
    | some reference =>
      match reference.step c with
      | some (.inl reference) => referredNames (some reference) rest
      | some (.inr (.named name)) => name :: referredNames none rest
      | _ => referredNames none rest

abbrev Weights := List (List Char × Nat)

/-- The weight of a text when the weights of all entities that it refers to are known: its own
bytes, one byte for each reference that needs no declaration, and the weights of the others. -/
def Weights.ofText (weights : Weights) (text : List Char) : Option Nat :=
  (referredNames none text).foldlM (fun total name =>
    if (predefined? name).isSome then some (total + 1)
    else (weights.lookup name).map (total + ·)) (utf8Size text)

namespace Doctype

/-- The weights of the entities, each as if what it refers to had the weight in `weights`. An entity
whose text cannot be told has none. -/
def weigh (doctype : Doctype) (weights : Weights) : Weights :=
  doctype.entities.filterMap fun
    | (name, .internal text) => (weights.ofText text).map fun weight => (name, weight)
    | _ => none

def weightsTo (doctype : Doctype) : (depth : Nat) → Weights
  | 0 => doctype.entities.map fun entry => (entry.1, 0)
  | depth + 1 => doctype.weigh (doctype.weightsTo depth)

def weightLimit : Nat := 8388608

/-- The weight of an entity with all that it refers to, if that can be told. Entities inside one
another go no deeper than there are entities; if the weight still changes then, one of them is
inside itself. -/
def weight? (doctype : Doctype) (name : List Char) : Option Nat :=
  let depth := doctype.entities.length
  let weight := (doctype.weightsTo depth).lookup name
  if weight == (doctype.weightsTo (depth + 1)).lookup name then weight else none

/-- Whether a reference to an entity with the given replacement text comes to too much text. An
entity that is inside itself is not too heavy: that is another fault. -/
def isTooHeavy (doctype : Doctype) (name text : List Char) : Bool :=
  if (referredNames none text).isEmpty then utf8Size text ≥ weightLimit
  else (doctype.weight? name).any (weightLimit ≤ ·)

end Doctype

end Apidoc.Xml
