import Apidoc.Catalog
import Apidoc.Entity.Change
import Apidoc.Entity.Collection

/-!
Sessions: entities that are made and changed one by one, and rosters of them that can be linked.
An entity can be in several rosters; what it holds is its own.
-/
namespace Apidoc

/-- Entities by the key that they were added under, as places in the session, and which of them was
put into which. -/
structure Roster where
  assembly : Option String
  entries : Ordered (Option String) Nat := []

inductive Thing where
  | entity (ref : Nat)
  | nothing
  | roster (r : Roster)

structure Session where
  entities : List Entity := []
  placements : List (Nat × Nat) := []
  names : Ordered String Thing := []

namespace Session

def ref? (s : Session) (name : String) : Option Nat :=
  match s.names.find? name with
  | some (.entity ref) => some ref
  | _ => none

def entity? (s : Session) (name : String) : Option Entity :=
  (s.ref? name).bind (s.entities[·]?)

def roster? (s : Session) (name : String) : Option Roster :=
  match s.names.find? name with
  | some (.roster r) => some r
  | _ => none

def held? (s : Session) (name : String) : Option Held :=
  (s.ref? name).bind fun ref => (s.entities[ref]?).map fun e => ⟨ref, e⟩

def operand (s : Session) (name : String) : Operand Roster :=
  match s.held? name, s.roster? name with
  | some h, _ => .held h
  | none, some r => .other r
  | none, none => .nothing

def contents (s : Session) (ref : Nat) : List (Option String) :=
  (s.placements.filter (·.1 = ref)).filterMap fun p => (s.entities[p.2]?).map (·.id)

def listed (s : Session) (r : Roster) : List (Nat × Entity) :=
  r.entries.values.filterMap fun ref => (s.entities[ref]?).map fun e => (ref, e)

def add (s : Session) (name : String) (e : Entity) : Session :=
  { s with
    entities := s.entities ++ [e]
    names := s.names.insert name (.entity s.entities.length) }

def passOver (s : Session) (name : String) : Session :=
  { s with names := s.names.insert name .nothing }

def isPassedOver (s : Session) (name : String) : Bool :=
  match s.names.find? name with
  | some .nothing => true
  | _ => false

def setRoster (s : Session) (name : String) (r : Roster) : Session :=
  { s with names := s.names.insert name (.roster r) }

def change (s : Session) (name : String) (c : Entity.Change) : Session :=
  match s.ref? name with
  | none => s
  | some ref => { s with entities := s.entities.modify ref (·.change c) }

/-- Makes the entity for an id and gives it a name; it stands for nothing if the
member is passed over. -/
def create (s : Session) (settings : Settings) (name id : String) (comment : Option Comment) :
    Except Catalog.Fault (Session × List Notice) :=
  match Catalog.create settings id comment with
  | .error fault => .error fault
  | .ok (.skipped notice) => .ok (s.passOver name, [notice])
  | .ok (.entity e) => .ok (s.add name e, [])

def enlist (s : Session) (roster entity : String) : Session :=
  match s.roster? roster, s.ref? entity, s.entity? entity with
  | some r, some ref, some e => s.setRoster roster { r with entries := r.entries.insert e.id ref }
  | _, _, _ => s

def row (s : Session) (entry : Option String × Nat) : Option (Linking.Row Nat) :=
  (s.entities[entry.2]?).map fun e => ⟨entry.2, entry.1, e.id, e.kind, e.fullName⟩

def holderRef (r : Roster) : Linking.Holder Nat → Option Nat
  | .given ref => some ref
  | .implied id => r.entries.find? (some id)

def carryOut (settings : Settings) (state : Session × Roster) (event : Linking.Event Nat) :
    Session × Roster :=
  let (s, r) := state
  match event with
  | .implied id =>
    match Catalog.entityFor settings .space id none with
    | .error _ => (s, r)
    | .ok e =>
      ({ s with entities := s.entities ++ [e] },
       { r with entries := r.entries.insert (some id) s.entities.length })
  | .attached holder member =>
    match holderRef r holder with
    | none => (s, r)
    | some ref => ({ s with placements := s.placements ++ [(ref, member)] }, r)
  | .undeclared _ => (s, r)

/-- Links the entities of a roster. What was done before a fault stays. -/
def link (s : Session) (settings : Settings) (name : String) (r : Roster) :
    Session × List Notice × Option Linking.Fault :=
  let (events, fault) := Linking.plan (r.entries.filterMap s.row) (Catalog.refusal settings)
  let (s, r) := events.foldl (carryOut settings) (s, r)
  (s.setRoster name r, events.filterMap Catalog.noticeOf, fault)

end Session

end Apidoc
