import Apidoc.Entity

/-!
Comparing entities, and collections of them. An entity is equal to itself and to the entities with its
id, of whatever kind, and to nothing else. Sets and maps look for an entity by its hash first and
compare only those that have the same one; lists compare all.
-/
namespace Apidoc

/-- An entity in hand: the place where it is kept, and what it was when it was taken from there. One
place keeps one entity, which may change. -/
structure Held where
  place : Nat
  entity : Entity
  deriving DecidableEq, Repr

inductive Operand (α : Type) where
  | nothing
  | held (h : Held)
  | other (value : α)

namespace Entity

/-- A hash function for ids: the characters as digits of which none is zero. Different ids have
different numbers, and that of the empty id is zero. -/
def idNumber (id : String) : Int :=
  id.toList.foldl (fun n c => n * 0x110000 + (c.toNat + 1 : Nat)) 0

/-- The hash of an entity is that of its id; without an id it is zero. -/
def hash (hashId : String → Int) (e : Entity) : Int :=
  match e.id with
  | none => 0
  | some id => hashId id

end Entity

namespace Held

/-- Whether two entities are equal: they are one, or have the same id. -/
def same (a b : Held) : Bool :=
  b.place == a.place || a.entity.same b.entity

/-- Whether an entity equals something. Asked about what is no entity it has no answer; nor has the
other side, and they are not one. -/
def equals {α : Type} (h : Held) : Operand α → Bool
  | .nothing => false
  | .held other => h.same other
  | .other _ => false

def matched (hashId : String → Int) (a b : Held) : Bool :=
  a.entity.hash hashId == b.entity.hash hashId && a.same b

def addToSet (hashId : String → Int) (set : List Held) (h : Held) : List Held :=
  if set.any (h.matched hashId) then set else set ++ [h]

def setOf (hashId : String → Int) (entities : List Held) : List Held :=
  entities.foldl (addToSet hashId) []

/-- Puts a value under an entity; the same one keeps its place and has its value replaced. -/
def putInTable {α : Type} (hashId : String → Int) (table : List (Held × α)) (h : Held)
    (value : α) : List (Held × α) :=
  match table with
  | [] => [(h, value)]
  | (key, old) :: rest =>
    if h.matched hashId key then (key, value) :: rest
    else (key, old) :: putInTable hashId rest h value

def tableOf {α : Type} (hashId : String → Int) (entries : List (Held × α)) : List (Held × α) :=
  entries.foldl (fun table entry => putInTable hashId table entry.1 entry.2) []

def lookup {α : Type} (hashId : String → Int) (h : Held) (table : List (Held × α)) : Option α :=
  (table.find? fun entry => h.matched hashId entry.1).map (·.2)

def indexIn (h : Held) (entities : List Held) : Option Nat :=
  entities.findIdx? (·.same h)

end Held

end Apidoc
