import Apidoc.Entity.Kind
import Apidoc.MemberId
import Apidoc.Stem

/-!
Which entity declares which. A member belongs to the type whose name stands before the last dot of
its own; a type to such a type, or else to the namespace of that name. A namespace that nobody
documents is implied by its types, unless a documented type encloses its name: what looks like a
namespace is then a type without documentation.

`homeOf` decides where one entity belongs, from the entities that are documented. `plan` goes
through the entities in order and says what is to be done.
-/
namespace Apidoc.Linking

variable {ρ : Type}

/-- An entity as linking sees it: the entity itself, and the key that it is looked up by. -/
structure Row (ρ : Type) where
  handle : ρ
  key : Option String
  id : Option String
  kind : Kind
  fullName : Option String

/-- Where an entity belongs: nowhere if it is a namespace or has no dot in its name, inside a
documented entity, or inside a namespace or a type that nobody documents. -/
inductive Home (ρ : Type) where
  | top
  | inside (container : ρ)
  | implied (id : String)
  | unknown
  deriving DecidableEq, Repr

inductive Fault where
  | unnamed
  | notNamespace (kind : Kind)
  | stem (fault : Stem.Fault)

def Fault.message : Fault → String
  | .unnamed => "'NoneType' object has no attribute 'rpartition'"
  | .notNamespace kind => s!"'{kind.label}' object has no attribute 'types'"
  | .stem fault => fault.message

def typeId (fullName : String) : String := "T:" ++ fullName

def namespaceId (fullName : String) : String := "N:" ++ fullName

def rowAt? (rows : List (Row ρ)) (key : String) : Option (Row ρ) :=
  rows.find? (·.key == some key)

def typeNames (rows : List (Row ρ)) : List String :=
  (rows.filter (·.kind = .type)).filterMap (·.fullName)

def namespaceHome (rows : List (Row ρ)) (declaring : String) : Except Fault (Home ρ) :=
  match rowAt? rows (namespaceId declaring) with
  | some row =>
    if row.kind = .space then .ok (.inside row.handle) else .error (.notNamespace row.kind)
  | none =>
    if MemberId.isInsideSome (typeNames rows) declaring then .ok .unknown
    else .ok (.implied (namespaceId declaring))

def homeOf (rows : List (Row ρ)) (row : Row ρ) : Except Fault (Home ρ) :=
  if row.kind = .space then .ok .top
  else
    match row.fullName with
    | none => .error .unnamed
    | some fullName =>
      match MemberId.declaringName fullName with
      | none => .ok .top
      | some declaring =>
        match (rowAt? rows (typeId declaring)).filter (·.kind = .type) with
        | some outer => .ok (.inside outer.handle)
        | none => if row.kind = .type then namespaceHome rows declaring else .ok .unknown

/-- The type or namespace that holds an entity: one of the given ones, or an implied namespace. -/
inductive Holder (ρ : Type) where
  | given (handle : ρ)
  | implied (id : String)
  deriving DecidableEq, Repr

inductive Event (ρ : Type) where
  | implied (id : String)
  | attached (holder : Holder ρ) (member : ρ)
  | undeclared (id : Option String)
  deriving DecidableEq, Repr

/-- What is to be done with the entities `rest`, after others have implied namespaces, up to the
first fault. `refusal` tells which ids have no stem. -/
def planFrom (rows : List (Row ρ)) (refusal : String → Option Stem.Fault)
    (implied : List String) (rest : List (Row ρ)) : List (Event ρ) × Option Fault :=
  match rest with
  | [] => ([], none)
  | row :: rest =>
    match homeOf rows row with
    | .error fault => ([], some fault)
    | .ok .top => planFrom rows refusal implied rest
    | .ok .unknown =>
      let (events, fault) := planFrom rows refusal implied rest
      (.undeclared row.id :: events, fault)
    | .ok (.inside container) =>
      let (events, fault) := planFrom rows refusal implied rest
      (.attached (.given container) row.handle :: events, fault)
    | .ok (.implied id) =>
      if implied.contains id then
        let (events, fault) := planFrom rows refusal implied rest
        (.attached (.implied id) row.handle :: events, fault)
      else
        match refusal id with
        | some fault => ([], some (.stem fault))
        | none =>
          let (events, fault) := planFrom rows refusal (id :: implied) rest
          (.implied id :: .attached (.implied id) row.handle :: events, fault)

def plan (rows : List (Row ρ)) (refusal : String → Option Stem.Fault) :
    List (Event ρ) × Option Fault :=
  planFrom rows refusal [] rows

end Apidoc.Linking
