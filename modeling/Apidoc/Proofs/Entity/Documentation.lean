import Mathlib.Data.List.Induction
import Apidoc.Entity.Change

/-!
What is known about an entity after any run of changes. Documentation is derived on some changes and
left alone by others; it is always that of one comment, the one that was there when it was last
derived, and never a mixture. Texts that are set by themselves are not covered here.
-/
namespace Apidoc

structure Documentation where
  description : Option String := none
  remarks : Option String := none
  typeParameters : List ParameterNote := []
  parameters : List ParameterNote := []
  exceptions : List ExceptionNote := []
  returns : Option String := none
  value : Option String := none
  deriving DecidableEq, Repr

namespace Documentation

def tagged (c : Comment) (tag : String) : List Xml.Element :=
  c.element.children.filter fun child => child.tag.spelled = tag

def inside (element : Xml.Element) : String :=
  Text.trim (String.ofList element.content.markup)

def single (c : Comment) (tag : String) : Option String :=
  (tagged c tag).head?.map inside

def named (c : Comment) (tag : String) : List ParameterNote :=
  (tagged c tag).filterMap fun child => (child.attribute? "name").map fun name =>
    ⟨name, inside child⟩

def raised (c : Comment) : List ExceptionNote :=
  (tagged c "exception").map fun child => ⟨child.attribute? "cref", inside child⟩

def ofComment (kind : Kind) : Option Comment → Documentation
  | none => {}
  | some c =>
    let said : Documentation := { description := single c "summary", remarks := single c "remarks" }
    match kind with
    | .type => { said with typeParameters := named c "typeparam" }
    | .method =>
      { said with
        typeParameters := named c "typeparam"
        parameters := named c "param"
        exceptions := raised c
        returns := single c "returns" }
    | .property =>
      { said with
        parameters := named c "param"
        exceptions := raised c
        value := single c "value" }
    | _ => said

end Documentation

namespace Entity

def documentation (e : Entity) : Documentation :=
  ⟨e.description, e.remarks, e.typeParameters, e.parameters, e.exceptions, e.returns, e.value⟩

namespace Change

/-- Whether a change derives the documentation: a comment is set, or it is asked for. -/
def derives : Change → Bool
  | .setComment comment => comment.isSome
  | .derive => true
  | _ => false

def assigns : Change → Bool
  | .assign _ _ => true
  | _ => false

def comment? : Change → Option (Option Comment)
  | .setComment comment => some comment
  | _ => none

def link? : Change → Option SeeAlso
  | .addSeeAlso link => some link
  | _ => none

def topic? : Change → Option (Option Topic)
  | .setTopic topic => some topic
  | _ => none

end Change

def lastComment (cs : List Change) : Option Comment :=
  (cs.filterMap Change.comment?).getLast?.join

def lastTopic (cs : List Change) : Option Topic :=
  (cs.filterMap Change.topic?).getLast?.join

structure Followed (kind : Kind) (id name fullName stem : Option String) (cs : List Change)
    (e : Entity) : Prop where
  comment : e.comment = lastComment cs
  derived : ∀ before event after, cs = before ++ event :: after → event.derives = true →
    (∀ c ∈ after, c.derives = false) →
    e.documentation = .ofComment kind (lastComment (before ++ [event]))
  underived : (∀ c ∈ cs, c.derives = false) → e.documentation = {}
  renewed : ∀ c, (e.setComment (some c)).documentation = .ofComment kind (some c)
  kept : (e.setComment none).documentation = e.documentation
  links : e.seeAlso = cs.filterMap Change.link?
  topic : e.topic = lastTopic cs
  kind : e.kind = kind
  labels : e.id = id ∧ e.name = name ∧ e.fullName = fullName ∧ e.stem = stem

theorem body?_eq_single (c : Comment) (tag : String) :
    Comment.body? (some c) tag = Documentation.single c tag := by
  simp only [Comment.body?, Option.bind_some, Documentation.single, Documentation.tagged,
    List.head?_filter, Comment.passage?, Comment.allPassages]
  rfl

theorem parameterNotes_eq_named (c : Comment) (tag : String) :
    Comment.parameterNotes (some c) tag = Documentation.named c tag := by
  simp only [Comment.parameterNotes, Option.toList_some, List.flatMap_singleton]
  rfl

theorem exceptionNotes_eq_raised (c : Comment) :
    Comment.exceptionNotes (some c) = Documentation.raised c := by
  simp only [Comment.exceptionNotes, Option.toList_some, List.flatMap_singleton]
  rfl

variable {e : Entity} {change : Change} {cs : List Change}

/-- Deriving replaces everything that was derived before. -/
theorem documentation_derive (e : Entity) :
    e.derive.documentation = .ofComment e.kind e.comment := by
  obtain ⟨id, name, fullName, stem, comment, description, remarks, details, seeAlso, topic⟩ := e
  cases comment with
  | none => cases details <;> rfl
  | some c =>
    cases details <;>
      simp [derive, documentation, extract, Details.derive, typeParameters, parameters, exceptions,
        returns, value, kind, Details.kind, Documentation.ofComment, body?_eq_single,
        parameterNotes_eq_named, exceptionNotes_eq_raised]

theorem documentation_change (derives : change.derives = true) :
    (e.change change).documentation = .ofComment e.kind (e.change change).comment := by
  cases change with
  | setComment comment =>
    cases comment with
    | none => cases derives
    | some c => exact documentation_derive { e with comment := some c }
  | derive => exact documentation_derive e
  | _ => cases derives

theorem documentation_change_of_quiet (quiet : change.derives = false)
    (unassigned : change.assigns = false) :
    (e.change change).documentation = e.documentation := by
  cases change with
  | setComment comment =>
    cases comment with
    | none => rfl
    | some c => cases quiet
  | derive => cases quiet
  | assign label value => cases unassigned
  | _ => rfl

theorem comment_change (unassigned : change.assigns = false) :
    (e.change change).comment = change.comment?.getD e.comment := by
  cases change with
  | setComment comment => cases comment <;> rfl
  | assign label value => cases unassigned
  | _ => rfl

theorem kind_change (unassigned : change.assigns = false) : (e.change change).kind = e.kind := by
  cases change with
  | setComment comment =>
    cases comment with
    | none => rfl
    | some c => exact Details.kind_derive (some c) e.details
  | derive => exact Details.kind_derive e.comment e.details
  | assign label value => cases unassigned
  | _ => rfl

theorem labels_change (unassigned : change.assigns = false) :
    (e.change change).id = e.id ∧ (e.change change).name = e.name ∧
      (e.change change).fullName = e.fullName ∧ (e.change change).stem = e.stem := by
  cases change with
  | setComment comment => cases comment <;> exact ⟨rfl, rfl, rfl, rfl⟩
  | assign label value => cases unassigned
  | _ => exact ⟨rfl, rfl, rfl, rfl⟩

theorem seeAlso_change (unassigned : change.assigns = false) :
    (e.change change).seeAlso = e.seeAlso ++ change.link?.toList := by
  cases change with
  | setComment comment => cases comment <;> simp [Entity.change, setComment, derive, Change.link?]
  | assign label value => cases unassigned
  | _ => simp [Entity.change, derive, addSeeAlso, Change.link?]

theorem topic_change (unassigned : change.assigns = false) :
    (e.change change).topic = change.topic?.getD e.topic := by
  cases change with
  | setComment comment => cases comment <;> rfl
  | assign label value => cases unassigned
  | _ => rfl

theorem changes_snoc (e : Entity) (cs : List Change) (c : Change) :
    e.changes (cs ++ [c]) = (e.changes cs).change c := by
  simp [changes, List.foldl_append]

/-- The last of the values that changes set, which a further change may replace. -/
theorem last_snoc {α : Type} (set? : Change → Option (Option α)) (cs : List Change) (c : Change) :
    ((cs ++ [c]).filterMap set?).getLast?.join =
      (set? c).getD (cs.filterMap set?).getLast?.join := by
  rw [List.filterMap_append]
  cases found : set? c with
  | none => simp [found]
  | some value => simp [found]

theorem snoc_eq_append_cons {before after : List Change} {event c : Change}
    (same : cs ++ [c] = before ++ event :: after) :
    (after = [] ∧ event = c) ∨ ∃ rest, after = rest ++ [c] ∧ cs = before ++ event :: rest := by
  cases after using List.reverseRecOn with
  | nil =>
    obtain ⟨-, last⟩ := List.append_inj' same rfl
    cases last
    exact Or.inl ⟨rfl, rfl⟩
  | append_singleton rest other =>
    rw [← List.cons_append, ← List.append_assoc] at same
    obtain ⟨front, last⟩ := List.append_inj' same rfl
    cases last
    exact Or.inr ⟨rest, rfl, front⟩

theorem documentation_setComment (c : Comment) :
    (e.setComment (some c)).documentation = .ofComment e.kind (some c) :=
  documentation_derive { e with comment := some c }

variable {kind : Kind} {id name fullName stem : Option String}

theorem Followed.start (kind : Kind) (id name fullName stem : Option String) :
    Followed kind id name fullName stem [] (new kind id name fullName stem) := by
  have isKind : (new kind id name fullName stem).kind = kind := Details.kind_initial kind
  refine ⟨rfl, ?_, ?_, ?_, rfl, rfl, rfl, isKind, rfl, rfl, rfl, rfl⟩
  · intro before event after same
    simp at same
  · intro _
    cases kind <;> rfl
  · intro c
    rw [documentation_setComment, isKind]

theorem Followed.step {c : Change} (followed : Followed kind id name fullName stem cs e)
    (unassigned : c.assigns = false) :
    Followed kind id name fullName stem (cs ++ [c]) (e.change c) := by
  have isKind : (e.change c).kind = kind := (kind_change unassigned).trans followed.kind
  have current : (e.change c).comment = lastComment (cs ++ [c]) := by
    rw [comment_change unassigned, followed.comment, lastComment, lastComment, last_snoc]
  constructor
  case comment => exact current
  case derived =>
    intro before event after same derives quiet
    -- The last change is the event itself, or comes after it and leaves what was derived alone.
    rcases snoc_eq_append_cons same with ⟨rfl, rfl⟩ | ⟨rest, rfl, earlier⟩
    · rw [documentation_change derives, current, followed.kind, same]
    · rw [documentation_change_of_quiet (quiet c (by simp)) unassigned]
      exact followed.derived before event rest earlier derives fun other there =>
        quiet other (List.mem_append_left _ there)
  case underived =>
    intro quiet
    rw [documentation_change_of_quiet (quiet c (by simp)) unassigned]
    exact followed.underived fun other there => quiet other (List.mem_append_left _ there)
  case renewed =>
    intro comment
    rw [documentation_setComment, isKind]
  case kept => rfl
  case links =>
    rw [seeAlso_change unassigned, followed.links, List.filterMap_append]
    cases found : c.link? <;> simp [found]
  case topic => rw [topic_change unassigned, followed.topic, lastTopic, lastTopic, last_snoc]
  case kind => exact isKind
  case labels =>
    obtain ⟨sameId, sameName, sameFullName, sameStem⟩ := labels_change (e := e) unassigned
    obtain ⟨givenId, givenName, givenFullName, givenStem⟩ := followed.labels
    exact ⟨sameId.trans givenId, sameName.trans givenName, sameFullName.trans givenFullName,
      sameStem.trans givenStem⟩

/-- After any changes to a new entity, its comment, topic and links are what the changes set, its
labels are as before, and its documentation is that of the comment which was there at the last
derivation. -/
theorem changes_followed (kind : Kind) (id name fullName stem : Option String)
    (unassigned : ∀ c ∈ cs, c.assigns = false) :
    Followed kind id name fullName stem cs ((new kind id name fullName stem).changes cs) := by
  induction cs using List.reverseRecOn with
  | nil => exact Followed.start kind id name fullName stem
  | append_singleton cs c ih =>
    rw [changes_snoc]
    exact (ih fun other there => unassigned other (List.mem_append_left _ there)).step
      (unassigned c (by simp))

def sampleChanges : List Change :=
  let passage (tag : String) (attributes : List Xml.Attribute) (text : String) : Xml.Element :=
    ⟨.plain tag, attributes, text.toList.foldr .char .empty⟩
  let comment (passages : List Xml.Element) : Comment :=
    ⟨⟨.plain "member", [], passages.foldr Xml.Element.onto .empty⟩⟩
  [.setComment (some (comment
     [passage "summary" [] " Hello ", passage "returns" [] "World",
      passage "param" [⟨.plain "name", ['n']⟩] "first", passage "param" [] "second"])),
   .addSeeAlso { cref := some "T:A" },
   .setComment (some (comment [passage "summary" [] "Bye\n", passage "summary" [] "again"])),
   .setComment none]

theorem changes_followed_sample :
    (∀ c ∈ sampleChanges, c.assigns = false) ∧
      Followed .method (some "M:A") (some "A") none none sampleChanges
        ((new .method (some "M:A") (some "A") none none).changes sampleChanges) ∧
      ((new .method (some "M:A") (some "A") none none).changes sampleChanges).documentation =
        { description := some "Bye" } ∧
      ((new .method (some "M:A") (some "A") none none).changes
        (sampleChanges.take 2)).documentation =
        { description := some "Hello"
          returns := some "World"
          parameters := [⟨"n", "first"⟩] } := by
  have unassigned : ∀ c ∈ sampleChanges, c.assigns = false := by decide
  exact ⟨unassigned, changes_followed .method _ _ _ _ unassigned, by decide +kernel,
    by decide +kernel⟩

end Entity

end Apidoc
