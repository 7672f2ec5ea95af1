import Mathlib.Data.Finset.Card
import Mathlib.Logic.Relation
import Apidoc.Proofs.Ordered
import Apidoc.Session

/-!
Entities behave as their ids. Whatever happens to the entities of a session, as long as no id is
assigned, two of them are equal exactly when their ids are, so a set of entities is one of ids, a
table finds what was put in last under an id, and a list is searched for the first with an id. Which
hash function is used makes no difference, nor does it when an entity was taken from the session.
-/
namespace Apidoc

def Entity.Change.setsId : Entity.Change → Bool
  | .assign .id _ => true
  | _ => false

theorem Entity.id_change {e : Entity} {c : Entity.Change} (keeps : c.setsId = false) :
    (e.change c).id = e.id := by
  cases c with
  | setComment comment => cases comment <;> rfl
  | assign label value =>
    cases label with
    | id => cases keeps
    | _ => rfl
  | _ => rfl

namespace Session

open Entity (Change)

variable {s after : Session} {a b : Held} {place : Nat} {e : Entity}

/-- What can happen to the entities of a session while no id is assigned: one is added, the one with a
name changes, or all fields of one but the id may be given other values. -/
inductive Step : Session → Session → Prop
  | add (s : Session) (name : String) (e : Entity) : Step s (s.add name e)
  | change (s : Session) (name : String) (c : Change) : c.setsId = false → Step s (s.change name c)
  | assign (s : Session) (place : Nat) (before now : Entity) : s.entities[place]? = some before →
      now.id = before.id → Step s { s with entities := s.entities.set place now }

theorem Step.keeps_id (step : Step s after) (there : s.entities[place]? = some e) :
    ∃ now, after.entities[place]? = some now ∧ now.id = e.id := by
  cases step with
  | add name new =>
    refine ⟨e, ?_, rfl⟩
    rw [Session.add, List.getElem?_append_left (List.getElem?_eq_some_iff.mp there).1, there]
  | change name c keeps =>
    unfold Session.change
    split
    · exact ⟨e, there, rfl⟩
    · next ref _ =>
      by_cases here : ref = place
      · refine ⟨e.change c, ?_, Entity.id_change keeps⟩
        simp [there, here]
      · refine ⟨e, ?_, rfl⟩
        simp [there, here]
  | assign other before now found same =>
    by_cases here : other = place
    · subst here
      rw [there, Option.some.injEq] at found
      subst found
      refine ⟨now, ?_, same⟩
      rw [List.getElem?_set_self (List.getElem?_eq_some_iff.mp there).1]
    · refine ⟨e, ?_, rfl⟩
      rw [List.getElem?_set_ne here, there]

abbrev Run : Session → Session → Prop :=
  Relation.ReflTransGen Step

theorem Run.keeps_id (run : Run s after) (there : s.entities[place]? = some e) :
    ∃ now, after.entities[place]? = some now ∧ now.id = e.id := by
  induction run with
  | refl => exact ⟨e, there, rfl⟩
  | tail _ step ih =>
    obtain ⟨middle, found, same⟩ := ih
    obtain ⟨now, last, kept⟩ := step.keeps_id found
    exact ⟨now, last, kept.trans same⟩

/-- An entity in hand is one of the session's: it was taken from its place now or at an earlier time. -/
def Holds (s : Session) (h : Held) : Prop :=
  ∃ earlier, Run earlier s ∧ earlier.entities[h.place]? = some h.entity

theorem Holds.id_kept (held : s.Holds a) :
    ∃ now, s.entities[a.place]? = some now ∧ now.id = a.entity.id := by
  obtain ⟨earlier, run, there⟩ := held
  exact run.keeps_id there

theorem Holds.id_eq_of_place (first : s.Holds a) (second : s.Holds b) (one : b.place = a.place) :
    a.entity.id = b.entity.id := by
  obtain ⟨now, there, kept⟩ := first.id_kept
  obtain ⟨other, also, alike⟩ := second.id_kept
  rw [one, there, Option.some.injEq] at also
  rw [← kept, ← alike, also]

theorem Holds.same_iff (first : s.Holds a) (second : s.Holds b) :
    a.same b = true ↔ a.entity.id = b.entity.id := by
  simp only [Held.same, Entity.same, Bool.or_eq_true, beq_iff_eq]
  constructor
  · rintro (one | alike)
    · exact first.id_eq_of_place second one
    · exact alike
  · exact Or.inr

end Session

namespace Held

variable {s : Session} {hashId : String → Int} {h : Held} {entities set : List Held}

theorem hash_eq_of_id (hashId : String → Int) {a b : Held} (alike : a.entity.id = b.entity.id) :
    a.entity.hash hashId = b.entity.hash hashId := by
  simp only [Entity.hash, alike]

/-- The look at the hashes changes nothing, even where different ids have the same one. -/
theorem matched_iff (hashId : String → Int) {a b : Held} (first : s.Holds a) (second : s.Holds b) :
    a.matched hashId b = true ↔ a.entity.id = b.entity.id := by
  rw [matched, Bool.and_eq_true, beq_iff_eq, first.same_iff second]
  exact ⟨And.right, fun alike => ⟨hash_eq_of_id hashId alike, alike⟩⟩

theorem matched_eq_false (hashId : String → Int) {a b : Held} (first : s.Holds a)
    (second : s.Holds b) (apart : b.entity.id ≠ a.entity.id) : a.matched hashId b = false := by
  rw [← Bool.not_eq_true, matched_iff hashId first second]
  exact apart.symm

def ids (entities : List Held) : List (Option String) :=
  entities.map (·.entity.id)

section Sets

theorem any_matched_iff (held : ∀ other ∈ set, s.Holds other) (own : s.Holds h) :
    set.any (h.matched hashId) = true ↔ h.entity.id ∈ ids set := by
  rw [List.any_eq_true, ids, List.mem_map]
  constructor
  · rintro ⟨other, listed, found⟩
    exact ⟨other, listed, ((matched_iff hashId own (held other listed)).mp found).symm⟩
  · rintro ⟨other, listed, alike⟩
    exact ⟨other, listed, (matched_iff hashId own (held other listed)).mpr alike.symm⟩

/-- What is known about a set: it holds entities of the session, each id once, and what ids it has. -/
structure HasIds (s : Session) (set : List Held) (known : List (Option String)) : Prop where
  held : ∀ h ∈ set, s.Holds h
  distinct : (ids set).Nodup
  mem_iff : ∀ id, id ∈ ids set ↔ id ∈ known

theorem HasIds.addToSet (hashId : String → Int) {known : List (Option String)}
    (has : HasIds s set known) (own : s.Holds h) :
    HasIds s (addToSet hashId set h) (known ++ [h.entity.id]) := by
  by_cases there : h.entity.id ∈ ids set
  · rw [Held.addToSet, if_pos ((any_matched_iff has.held own).mpr there)]
    refine ⟨has.held, has.distinct, ?_⟩
    intro id
    rw [List.mem_append, List.mem_singleton, ← has.mem_iff]
    constructor
    · exact Or.inl
    · rintro (old | rfl)
      · exact old
      · exact there
  · rw [Held.addToSet, if_neg (mt (any_matched_iff has.held own).mp there)]
    have longer : ids (set ++ [h]) = ids set ++ [h.entity.id] := List.map_append
    refine ⟨?_, ?_, ?_⟩
    · intro other listed
      rcases List.mem_append.mp listed with old | new
      · exact has.held other old
      · rw [List.mem_singleton.mp new]
        exact own
    · rw [longer]
      exact has.distinct.append (by simp) (by simpa using there)
    · intro id
      rw [longer, List.mem_append, List.mem_append, has.mem_iff]

theorem HasIds.foldl {known : List (Option String)} (has : HasIds s set known)
    (more : ∀ h ∈ entities, s.Holds h) :
    HasIds s (entities.foldl (Held.addToSet hashId) set) (known ++ ids entities) := by
  induction entities generalizing set known with
  | nil =>
    rw [ids, List.map_nil, List.append_nil]
    exact has
  | cons h rest ih =>
    obtain ⟨own, later⟩ := List.forall_mem_cons.mp more
    have next := ih (has.addToSet hashId own) later
    rw [List.append_assoc] at next
    exact next

theorem hasIds_setOf (hashId : String → Int) (held : ∀ h ∈ entities, s.Holds h) :
    HasIds s (setOf hashId entities) (ids entities) := by
  have empty : HasIds s [] [] := ⟨by simp, List.nodup_nil, fun id => Iff.rfl⟩
  exact empty.foldl held

theorem length_setOf (hashId : String → Int) (held : ∀ h ∈ entities, s.Holds h) :
    (setOf hashId entities).length = (ids entities).toFinset.card := by
  have has := hasIds_setOf hashId held
  calc (setOf hashId entities).length
    _ = (ids (setOf hashId entities)).length := (List.length_map _).symm
    _ = (ids (setOf hashId entities)).toFinset.card := (List.toFinset_card_of_nodup has.distinct).symm
    _ = (ids entities).toFinset.card := by
      congr 1
      ext id
      rw [List.mem_toFinset, List.mem_toFinset, has.mem_iff]

end Sets

section Tables

variable {α : Type} {table entries : List (Held × α)} {value : α}

def byId (table : List (Held × α)) : Ordered (Option String) α :=
  table.map fun entry => (entry.1.entity.id, entry.2)

theorem byId_putInTable (held : ∀ entry ∈ table, s.Holds entry.1) (own : s.Holds h) :
    byId (putInTable hashId table h value) = (byId table).insert h.entity.id value := by
  induction table with
  | nil => rfl
  | cons entry rest ih =>
    obtain ⟨first, others⟩ := List.forall_mem_cons.mp held
    have later := ih others
    by_cases alike : entry.1.entity.id = h.entity.id
    · have found := (matched_iff hashId own first).mpr alike.symm
      simp [putInTable, byId, Ordered.insert, found, alike]
    · have missed := matched_eq_false hashId own first alike
      simp only [byId] at later
      simp [putInTable, byId, Ordered.insert, missed, alike, later]

theorem holds_of_mem_putInTable (hashId : String → Int) (value : α)
    (held : ∀ entry ∈ table, s.Holds entry.1) (own : s.Holds h) :
    ∀ entry ∈ putInTable hashId table h value, s.Holds entry.1 := by
  induction table with
  | nil => simpa [putInTable] using own
  | cons first rest ih =>
    obtain ⟨here, others⟩ := List.forall_mem_cons.mp held
    simp only [putInTable]
    split
    · exact List.forall_mem_cons.mpr ⟨here, others⟩
    · exact List.forall_mem_cons.mpr ⟨here, ih others⟩

/-- A table of entities is built up as a map of their ids is. -/
theorem byId_foldl_putInTable (held : ∀ entry ∈ table, s.Holds entry.1)
    (more : ∀ entry ∈ entries, s.Holds entry.1) :
    byId (entries.foldl (fun table entry => putInTable hashId table entry.1 entry.2) table) =
        (byId table).merge (byId entries) ∧
      ∀ entry ∈ entries.foldl (fun table entry => putInTable hashId table entry.1 entry.2) table,
        s.Holds entry.1 := by
  induction entries generalizing table with
  | nil => exact ⟨rfl, held⟩
  | cons entry rest ih =>
    obtain ⟨own, later⟩ := List.forall_mem_cons.mp more
    obtain ⟨built, kept⟩ := ih (holds_of_mem_putInTable hashId entry.2 held own) later
    rw [byId_putInTable held own] at built
    exact ⟨built, kept⟩

theorem byId_tableOf (hashId : String → Int) (held : ∀ entry ∈ entries, s.Holds entry.1) :
    byId (tableOf hashId entries) = Ordered.ofList (byId entries) ∧
      ∀ entry ∈ tableOf hashId entries, s.Holds entry.1 := by
  have empty : ∀ entry ∈ ([] : List (Held × α)), s.Holds entry.1 := by simp
  exact byId_foldl_putInTable empty held

theorem lookup_eq_find? (hashId : String → Int) (held : ∀ entry ∈ table, s.Holds entry.1)
    (own : s.Holds h) : h.lookup hashId table = (byId table).find? h.entity.id := by
  induction table with
  | nil => rfl
  | cons entry rest ih =>
    obtain ⟨first, others⟩ := List.forall_mem_cons.mp held
    have later := ih others
    by_cases alike : entry.1.entity.id = h.entity.id
    · have found := (matched_iff hashId own first).mpr alike.symm
      simp [lookup, byId, Ordered.find?, found, alike]
    · have missed := matched_eq_false hashId own first alike
      simp only [lookup, byId] at later
      simp [lookup, byId, Ordered.find?, missed, alike, later]

theorem lookup_tableOf (hashId : String → Int) (held : ∀ entry ∈ entries, s.Holds entry.1)
    (own : s.Holds h) :
    h.lookup hashId (tableOf hashId entries) =
      (entries.filter (·.1.entity.id = h.entity.id)).getLast?.map (·.2) := by
  obtain ⟨built, kept⟩ := byId_tableOf hashId held
  rw [lookup_eq_find? hashId kept own, built, Ordered.find?_ofList, byId, List.filter_map,
    List.getLast?_map, Option.map_map]
  rfl

end Tables

theorem indexIn_eq_idxOf? (held : ∀ h ∈ entities, s.Holds h) (own : s.Holds h) :
    h.indexIn entities = (ids entities).idxOf? h.entity.id := by
  induction entities with
  | nil => rfl
  | cons first rest ih =>
    obtain ⟨one, others⟩ := List.forall_mem_cons.mp held
    have later := ih others
    have here : first.same h = (first.entity.id == h.entity.id) := by
      rw [Bool.eq_iff_iff, one.same_iff own, beq_iff_eq]
    simp only [indexIn, List.idxOf?, ids, List.map_cons, List.findIdx?_cons, here] at later ⊢
    rw [later]

end Held

namespace Session

open Held (ids setOf tableOf)

/-- What the entities of a session have in common with their ids, under a hash function for ids. -/
structure AsIds (hashId : String → Int) (s : Session) : Prop where
  kept : ∀ a, s.Holds a → ∃ now, s.entities[a.place]? = some now ∧ now.id = a.entity.id
  equals_iff : ∀ (α : Type) a b, s.Holds a → s.Holds b →
    (a.equals (.held b : Operand α) = true ↔ a.entity.id = b.entity.id)
  equivalence : ∀ α : Type, Equivalence fun a b : { h // s.Holds h } =>
    a.1.equals (.held b.1 : Operand α) = true
  apart : ∀ (α : Type) (a : Held) (value : α),
    a.equals (.nothing : Operand α) = false ∧ a.equals (.other value) = false
  hash_eq : ∀ (α : Type) a b, s.Holds a → s.Holds b → a.equals (.held b : Operand α) = true →
    a.entity.hash hashId = b.entity.hash hashId
  idless : ∀ a : Held, a.entity.id = none → a.entity.hash hashId = 0
  unmerged : ∀ a b id, s.Holds a → s.Holds b → a.entity.id = none → b.entity.id = some id →
    hashId id = 0 → a.entity.hash hashId = b.entity.hash hashId ∧ a.matched hashId b = false
  size : ∀ hands, (∀ h ∈ hands, s.Holds h) →
    (setOf hashId hands).length = (ids hands).toFinset.card
  members : ∀ hands, (∀ h ∈ hands, s.Holds h) →
    (ids (setOf hashId hands)).Nodup ∧ ∀ id, id ∈ ids (setOf hashId hands) ↔ id ∈ ids hands
  latest : ∀ (α : Type) (entries : List (Held × α)) (h : Held),
    (∀ entry ∈ entries, s.Holds entry.1) → s.Holds h →
    h.lookup hashId (tableOf hashId entries) =
      (entries.filter (·.1.entity.id = h.entity.id)).getLast?.map (·.2)
  first : ∀ hands h, (∀ other ∈ hands, s.Holds other) → s.Holds h →
    h.indexIn hands = (ids hands).idxOf? h.entity.id

/-- The entities of a session, taken at any times while no id was assigned, behave as their ids: when
they are compared, in sets and tables under any hash function, and in lists. -/
theorem entities_asIds (hashId : String → Int) (s : Session) : AsIds hashId s where
  kept _ held := held.id_kept
  equals_iff _ _ _ first second := first.same_iff second
  equivalence _ :=
    { refl := fun a => (a.2.same_iff a.2).mpr rfl
      symm := fun {a b} same => (b.2.same_iff a.2).mpr ((a.2.same_iff b.2).mp same).symm
      trans := fun {a b c} same more =>
        (a.2.same_iff c.2).mpr (((a.2.same_iff b.2).mp same).trans ((b.2.same_iff c.2).mp more)) }
  apart _ _ _ := ⟨rfl, rfl⟩
  hash_eq _ _ _ first second same := Held.hash_eq_of_id hashId ((first.same_iff second).mp same)
  idless a none := by simp only [Entity.hash, none]
  unmerged a b id first second none some zero := by
    constructor
    · simp only [Entity.hash, none, some, zero]
    · apply Held.matched_eq_false hashId first second
      rw [none, some]
      exact Option.some_ne_none id
  size _ held := Held.length_setOf hashId held
  members _ held := ⟨(Held.hasIds_setOf hashId held).distinct, (Held.hasIds_setOf hashId held).mem_iff⟩
  latest _ _ _ held own := Held.lookup_tableOf hashId held own
  first _ _ held own := Held.indexIn_eq_idxOf? held own

def sampleSession : Session :=
  { entities := [.new .type (some "T:A") none none none, .new .method (some "T:A") none none none,
      .new .field (some "") none none none, .new .space none none none none]
    names := [("a", .entity 0)] }

/-- The type before and after its name is assigned, and the others. -/
def sampleHands : List Held :=
  [⟨0, .new .type (some "T:A") none none none⟩, ⟨0, .new .type (some "T:A") (some "A") none none⟩,
   ⟨1, .new .method (some "T:A") none none none⟩, ⟨2, .new .field (some "") none none none⟩,
   ⟨3, .new .space none none none none⟩]

theorem entities_asIds_sample :
    (∀ h ∈ sampleHands, (sampleSession.change "a" (.assign .name (some "A"))).Holds h) ∧
      (setOf (fun _ => 0) sampleHands).length = 3 ∧
      Held.indexIn ⟨1, .new .method (some "T:A") none none none⟩ sampleHands = some 0 ∧
      Held.lookup (fun _ => 0) ⟨0, .new .type (some "T:A") none none none⟩
        (tableOf (fun _ => 0) (sampleHands.zip ["a", "b", "c", "d", "e"])) = some "c" := by
  have step : Run sampleSession (sampleSession.change "a" (.assign .name (some "A"))) :=
    .single (.change sampleSession "a" (.assign .name (some "A")) rfl)
  have held : ∀ h ∈ sampleHands,
      (sampleSession.change "a" (.assign .name (some "A"))).Holds h := by
    intro h there
    simp only [sampleHands, List.mem_cons, List.not_mem_nil, or_false] at there
    rcases there with rfl | rfl | rfl | rfl | rfl
    · exact ⟨sampleSession, step, rfl⟩
    all_goals exact ⟨_, .refl, rfl⟩
  have asIds := entities_asIds (fun _ => 0) (sampleSession.change "a" (.assign .name (some "A")))
  refine ⟨held, ?_, ?_, ?_⟩
  · rw [asIds.size sampleHands held]
    decide
  · rw [asIds.first sampleHands _ held (held _ (by decide))]
    decide
  · rw [asIds.latest String _ _ (fun entry there => held _ (List.of_mem_zip there).1)
      (held _ (by decide))]
    decide

end Session

end Apidoc
