import Apidoc.Catalog.Linking
import Apidoc.CommentFile
import Apidoc.Entity
import Apidoc.Settings

/-!
Catalogs: the entities that a file of comments documents, by id, and which of them holds which.
-/
namespace Apidoc

/-- The entities of a file by id, with implied namespaces last, and which of them was put into
which: the id of the container, then of the member. -/
structure Catalog where
  assembly : Option String
  entities : Ordered String Entity
  placements : List (String × String)

namespace Catalog

def find? (c : Catalog) (id : String) : Option Entity :=
  c.entities.find? id

def contents (c : Catalog) (id : String) : List String :=
  (c.placements.filter (·.1 = id)).map (·.2)

def ofKind (c : Catalog) (word : String) : Ordered String Entity :=
  c.entities.filter (·.2.kind.word == word)

inductive Fault where
  | unresolved (id : String)
  | stem (fault : Stem.Fault)
  | linking (fault : Linking.Fault)

def Fault.message : Fault → String
  | unresolved id => (Problem.unresolved id).text
  | stem fault => fault.message
  | linking fault => fault.message

inductive Creation where
  | entity (e : Entity)
  | skipped (notice : Notice)

/-- What stands before the colon in the id of a member that the compiler could not resolve. -/
def unresolvedLetter : String := "!"

def entityFor (settings : Settings) (kind : Kind) (id : String) (comment : Option Comment) :
    Except Stem.Fault Entity := do
  let parts := MemberId.split id
  let stem ← Stem.render settings.stemOptions id
  let bare := Entity.new kind id parts.name parts.fullName stem
  let links := comment.toList.flatMap Entity.linksOf
  return { bare.setComment comment with seeAlso := links }

def create (settings : Settings) (id : String) (comment : Option Comment) :
    Except Fault Creation :=
  let letter := (MemberId.split id).letter
  if letter = unresolvedLetter then
    if settings.skipUnresolved then .ok (.skipped (.unresolved id)) else .error (.unresolved id)
  else
    match Kind.ofLetter? letter with
    | none => .ok (.skipped (.unknownLetter id))
    | some kind =>
      match entityFor settings kind id comment with
      | .ok entity => .ok (.entity entity)
      | .error fault => .error (.stem fault)

/-- The entities of members, with notices about those that were passed over, up to the first
fault. -/
def createAll (settings : Settings) :
    List (String × Comment) → List Notice × Except Fault (List (String × Entity))
  | [] => ([], .ok [])
  | (id, comment) :: rest =>
    match create settings id (some comment) with
    | .error fault => ([], .error fault)
    | .ok (.skipped notice) =>
      let (notices, made) := createAll settings rest
      (notice :: notices, made)
    | .ok (.entity entity) =>
      let (notices, made) := createAll settings rest
      (notices, made.map ((id, entity) :: ·))

def row (entry : String × Entity) : Linking.Row String :=
  ⟨entry.1, some entry.1, entry.2.id, entry.2.kind, entry.2.fullName⟩

def refusal (settings : Settings) (id : String) : Option Stem.Fault :=
  match Stem.render settings.stemOptions id with
  | .ok _ => none
  | .error fault => some fault

def holderId : Linking.Holder String → String
  | .given id => id
  | .implied id => id

def carryOut (settings : Settings) (c : Catalog) : Linking.Event String → Catalog
  | .implied id =>
    match entityFor settings .space id none with
    | .ok entity => { c with entities := c.entities.insert id entity }
    | .error _ => c
  | .attached holder member =>
    { c with placements := c.placements ++ [(holderId holder, member)] }
  | .undeclared _ => c

def noticeOf {ρ : Type} : Linking.Event ρ → Option Notice
  | .undeclared id => some (.undeclared id)
  | _ => none

def link (settings : Settings) (c : Catalog) : List Notice × Except Fault Catalog :=
  let (events, fault) := Linking.plan (c.entities.map row) (refusal settings)
  let notices := events.filterMap noticeOf
  match fault with
  | some fault => (notices, .error (.linking fault))
  | none => (notices, .ok (events.foldl (carryOut settings) c))

def build (settings : Settings) (file : CommentFile) : List Notice × Except Fault Catalog :=
  match createAll settings file.comments with
  | (notices, .error fault) => (notices, .error fault)
  | (notices, .ok made) =>
    match link settings ⟨file.assembly, Ordered.ofList made, []⟩ with
    | (more, .error fault) => (notices ++ more, .error fault)
    | (more, .ok catalog) =>
      (notices ++ more ++ [.built catalog.entities.length file.source], .ok catalog)

end Catalog

end Apidoc
