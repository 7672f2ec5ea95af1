import Apidoc.Proofs.Catalog.Identity
import Apidoc.Proofs.Catalog.Reordering

/-!
Members that hold nothing. Where an entity belongs depends on which types and namespaces there are,
so one more member that is neither leaves every other entity where it was: it is added at its own
place, to the type that declares it if there is one, and nothing else changes.
-/
namespace Apidoc

/-- Entries that are told by their keys are the same when these are. -/
theorem Ordered.eq_of_keys {κ ν ε : Type} (make : κ → Except ε ν) {m other : Ordered κ ν}
    (made : ∀ entry ∈ m, make entry.1 = .ok entry.2)
    (made' : ∀ entry ∈ other, make entry.1 = .ok entry.2) (same : m.keys = other.keys) :
    m = other := by
  induction m generalizing other with
  | nil =>
    cases other with
    | nil => rfl
    | cons entry rest => cases same
  | cons entry rest ih =>
    cases other with
    | nil => cases same
    | cons entry' rest' =>
      obtain ⟨first, later⟩ := List.cons_eq_cons.mp same
      have value := made entry List.mem_cons_self
      rw [first, made' entry' List.mem_cons_self, Except.ok.injEq] at value
      rw [Prod.ext first value.symm, ih (fun e there => made e (List.mem_cons_of_mem _ there))
        (fun e there => made' e (List.mem_cons_of_mem _ there)) later]

namespace Catalog

open Linking (Home typeId namespaceId)

variable {settings : Settings} {id : String}

/-- A member that cannot hold others: its letter is none of a namespace or a type, and if the
compiler could not resolve it, that is allowed. -/
structure IsLeaf (settings : Settings) (id : String) : Prop where
  letter : (MemberId.split id).letter ∉ ["N", "T"]
  allowed : (MemberId.split id).letter = "!" → settings.skipUnresolved = true

namespace IsLeaf

theorem kind?_ne (leaf : IsLeaf settings id) {kind : Kind} (holds : kind = .space ∨ kind = .type) :
    MemberId.kind? id ≠ some kind := by
  intro known
  apply leaf.letter
  obtain ⟨earlier, later, split, -⟩ := List.lookup_eq_some_iff.mp known
  have there : ((MemberId.split id).letter, kind) ∈ Kind.letters := by
    rw [split]
    simp
  rcases holds with rfl | rfl
  · exact List.mem_cons.mpr (.inl (by simpa [Kind.letters] using there))
  · exact List.mem_pair.mpr (.inr (by simpa [Kind.letters] using there))

theorem not_refused (leaf : IsLeaf settings id) : ¬Refused settings id := by
  rintro ⟨unresolved, strict⟩
  rw [leaf.allowed unresolved] at strict
  cases strict

theorem typeId_ne (leaf : IsLeaf settings id) (name : String) : typeId name ≠ id := by
  rintro rfl
  exact leaf.kind?_ne (.inr rfl) (kind?_typeId name)

theorem namespaceId_ne (leaf : IsLeaf settings id) (name : String) : namespaceId name ≠ id := by
  rintro rfl
  exact leaf.kind?_ne (.inl rfl) (kind?_namespaceId name)

variable {front back : List String}

theorem typeNamesOf_insert (leaf : IsLeaf settings id) :
    typeNamesOf (front ++ id :: back) = typeNamesOf (front ++ back) := by
  simp [typeNamesOf, List.filter_append, leaf.kind?_ne (.inr rfl)]

/-- Where entities belong does not depend on a leaf. -/
theorem homeFor_insert (leaf : IsLeaf settings id) (other : String) :
    homeFor (front ++ id :: back) other = homeFor (front ++ back) other := by
  have listed : ∀ holder, holder ≠ id →
      (holder ∈ front ++ id :: back ↔ holder ∈ front ++ back) := by
    intro holder apart
    simp [apart]
  simp only [homeFor, listed _ (leaf.typeId_ne _), listed _ (leaf.namespaceId_ne _),
    leaf.typeNamesOf_insert]

theorem needed?_eq_none (leaf : IsLeaf settings id) (ids : List String) :
    (homeFor ids id).needed? = none := by
  rw [← Option.not_isSome_iff_eq_none, Option.isSome_iff_exists]
  rintro ⟨space, needed⟩
  exact leaf.kind?_ne (.inr rfl) (needed_cases needed).2.1

/-- A leaf is in the type that declares it, if there is one, and nowhere else. -/
theorem holder?_eq_some_iff (leaf : IsLeaf settings id) {ids : List String} {holder : String} :
    (homeFor ids id).holder? = some holder ↔
      ∃ name, MemberId.declaringName (MemberId.split id).fullName = some name ∧
        holder = typeId name ∧ holder ∈ ids := by
  constructor
  · intro held
    have belongs := belongs_homeFor ids id
    generalize homeFor ids id = home at belongs held
    cases belongs with
    | inType name declared there =>
      cases held
      exact ⟨name, declared, rfl, there⟩
    | inNamespace name declared isType => exact absurd isType (leaf.kind?_ne (.inr rfl))
    | implied name declared isType => exact absurd isType (leaf.kind?_ne (.inr rfl))
    | _ => cases held
  · rintro ⟨name, declared, rfl, there⟩
    simp [homeFor, leaf.kind?_ne (.inl rfl), declared, there, Home.holder?]

end IsLeaf

variable {file more : CommentFile} {c d : Catalog}
  {members spaces members' spaces' : Ordered String Entity} {front back : List String}

namespace Built

theorem members_of_nodup (built : Built settings file c members spaces)
    (distinct : file.comments.keys.Nodup) :
    members = file.comments.filterMap (entityOf? settings) := by
  rw [built.members_eq]
  exact Ordered.ofList_of_nodup ((keys_made_sublist settings file.comments).nodup distinct)

theorem spaces_eq (built : Built settings file c members spaces)
    (built' : Built settings more d members' spaces') (same : spaces'.keys = spaces.keys) :
    spaces' = spaces :=
  Ordered.eq_of_keys (entityFor settings .space · none) built'.spaces_bare built.spaces_bare same

theorem spaces_insert (built : Built settings file c members spaces)
    (built' : Built settings more d members' spaces') (leaf : IsLeaf settings id)
    (keys : members.keys = front ++ back) (keys' : members'.keys = front ++ id :: back) :
    spaces' = spaces := by
  apply built.spaces_eq built'
  rw [built'.keys_spaces, built.keys_spaces, keys, keys']
  simp only [List.filterMap_append, List.filterMap_cons, leaf.needed?_eq_none, leaf.homeFor_insert]

theorem contents_insert (built : Built settings file c members spaces)
    (built' : Built settings more d members' spaces') (leaf : IsLeaf settings id)
    (keys : members.keys = front ++ back) (keys' : members'.keys = front ++ id :: back)
    (holder : String) :
    ∃ first second, c.contents holder = first ++ second ∧ first ⊆ front ∧ second ⊆ back ∧
      d.contents holder = first ++
        (if (homeFor members.keys id).holder? = some holder then [id] else []) ++ second := by
  have old := built.contents_eq holder
  have new := built'.contents_eq holder
  rw [keys] at old
  rw [keys'] at new
  simp only [leaf.homeFor_insert, List.filter_append, List.filter_cons] at old new
  refine ⟨_, _, old, List.filter_sublist.subset, List.filter_sublist.subset, ?_⟩
  rw [new, keys]
  by_cases held : (homeFor (front ++ back) id).holder? = some holder
  · simp [held]
  · simp [held]

end Built

structure Inserted (settings : Settings) (before after : Ordered String Comment) (id : String)
    (comment : Comment) (c d : Catalog) : Prop where
  skipped : MemberId.kind? id = none → d = c
  assembly : d.assembly = c.assembly
  entities : (MemberId.kind? id).isSome → ∃ e front back,
    create settings id (some comment) = .ok (.entity e) ∧ id ∉ c.entities.keys ∧
      c.entities = front ++ back ∧ d.entities = front ++ (id, e) :: back ∧
      front.keys = before.keys.filter fun other => (MemberId.kind? other).isSome
  held : (MemberId.kind? id).isSome → ∀ name,
    MemberId.declaringName (MemberId.split id).fullName = some name →
    c.entities.has (typeId name) = true →
    ∃ first second, c.contents (typeId name) = first ++ second ∧
      d.contents (typeId name) = first ++ id :: second ∧
      first ⊆ before.keys ∧ second ⊆ after.keys
  others : ∀ holder, (∀ name,
      MemberId.declaringName (MemberId.split id).fullName = some name →
      c.entities.has (typeId name) = true → holder ≠ typeId name) →
    d.contents holder = c.contents holder

def withMember (file : CommentFile) (before after : Ordered String Comment) (id : String)
    (comment : Comment) : CommentFile :=
  { file with comments := before ++ (id, comment) :: after }

section Insertion

variable {before after : Ordered String Comment} {comment : Comment}

theorem keys_insert_nodup (split : file.comments = before ++ after)
    (distinct : file.comments.keys.Nodup) (fresh : id ∉ file.comments.keys) :
    (withMember file before after id comment).comments.keys.Nodup := by
  rw [split] at distinct fresh
  simp only [withMember, Ordered.keys, List.map_append, List.map_cons] at distinct fresh ⊢
  exact List.nodup_middle.mpr (List.nodup_cons.mpr ⟨fresh, distinct⟩)

theorem inserted_skipped (built : Built settings file c members spaces)
    (built' : Built settings (withMember file before after id comment) d members' spaces')
    (split : file.comments = before ++ after) (distinct : file.comments.keys.Nodup)
    (fresh : id ∉ file.comments.keys) (skipped : MemberId.kind? id = none) : d = c := by
  have none : entityOf? settings (id, comment) = none := by
    apply Option.eq_none_iff_forall_ne_some.mpr
    intro entry made
    have known := (create_entity (entityOf?_eq_some_iff.mp made).1).kind
    rw [skipped] at known
    cases known
  have same : members' = members := by
    rw [built'.members_of_nodup (keys_insert_nodup split distinct fresh),
      built.members_of_nodup distinct, split, withMember]
    simp [List.filterMap_append, none]
  have spaces := built.spaces_eq built' (by rw [built'.keys_spaces, built.keys_spaces, same])
  have assembly : d.assembly = c.assembly := built'.assembly.trans built.assembly.symm
  have entities : d.entities = c.entities := by rw [built'.entities, built.entities, same, spaces]
  have placements : d.placements = c.placements := by
    rw [built'.placements, built.placements, same]
  cases c
  cases d
  simp only [Catalog.mk.injEq]
  exact ⟨assembly, entities, placements⟩

/-- The entity of a leaf is the only one that is made besides those that were made before. -/
theorem members_insert (built : Built settings file c members spaces)
    (built' : Built settings (withMember file before after id comment) d members' spaces')
    (split : file.comments = before ++ after) (distinct : file.comments.keys.Nodup)
    (fresh : id ∉ file.comments.keys) (known : (MemberId.kind? id).isSome) :
    ∃ e, create settings id (some comment) = .ok (.entity e) ∧
      members = before.filterMap (entityOf? settings) ++ after.filterMap (entityOf? settings) ∧
      members' = before.filterMap (entityOf? settings) ++
        (id, e) :: after.filterMap (entityOf? settings) := by
  obtain ⟨kind, lettered⟩ := Option.isSome_iff_exists.mp known
  obtain ⟨outcome, created⟩ := built'.created (id, comment) (by simp [withMember])
  obtain ⟨e, rfl⟩ := Built.create_known lettered created
  have made : entityOf? settings (id, comment) = some (id, e) :=
    entityOf?_eq_some_iff.mpr ⟨created, rfl⟩
  refine ⟨e, created, ?_, ?_⟩
  · rw [built.members_of_nodup distinct, split, List.filterMap_append]
  · rw [built'.members_of_nodup (keys_insert_nodup split distinct fresh), withMember,
      List.filterMap_append, List.filterMap_cons, made]

theorem inserted_of_built (built : Built settings file c members spaces)
    (built' : Built settings (withMember file before after id comment) d members' spaces')
    (split : file.comments = before ++ after) (distinct : file.comments.keys.Nodup)
    (fresh : id ∉ file.comments.keys) (leaf : IsLeaf settings id) :
    Inserted settings before after id comment c d := by
  -- The leaf parts the entities of the members; the implied namespaces behind them stay.
  have assembly : d.assembly = c.assembly := built'.assembly.trans built.assembly.symm
  by_cases known : (MemberId.kind? id).isSome
  · obtain ⟨e, created, old, new⟩ := members_insert built built' split distinct fresh known
    have keys : members.keys = Ordered.keys (before.filterMap (entityOf? settings)) ++
        Ordered.keys (after.filterMap (entityOf? settings)) := by
      rw [old]
      exact List.map_append
    have keys' : members'.keys = Ordered.keys (before.filterMap (entityOf? settings)) ++
        id :: Ordered.keys (after.filterMap (entityOf? settings)) := by
      rw [new]
      exact List.map_append
    have contents := built.contents_insert built' leaf keys keys'
    refine ⟨fun unknown => ?_, assembly, fun _ => ⟨e, before.filterMap (entityOf? settings),
      after.filterMap (entityOf? settings) ++ spaces, created, ?_, ?_, ?_, ?_⟩, ?_, ?_⟩
    · rw [unknown] at known
      cases known
    · intro there
      rw [built.keys_eq, List.mem_append] at there
      rcases there with member | space
      · exact fresh (built.mem_members_iff.mp member).1
      · exact leaf.kind?_ne (.inl rfl) (built.kind?_space space)
    · rw [built.entities, old, List.append_assoc]
    · rw [built'.entities, new, built.spaces_insert built' leaf keys keys', List.append_assoc,
        List.cons_append]
    · apply keys_made
      intro member there
      apply built.created
      rw [split]
      exact List.mem_append_left after there
    · intro _ name declared there
      obtain ⟨first, second, whole, early, late, grown⟩ := contents (typeId name)
      have held := leaf.holder?_eq_some_iff.mpr
        ⟨name, declared, rfl, (built.has_typeId_iff name).mp there⟩
      rw [if_pos held, List.append_assoc, List.singleton_append] at grown
      exact ⟨first, second, whole, grown,
        List.Subset.trans early (keys_made_sublist settings before).subset,
        List.Subset.trans late (keys_made_sublist settings after).subset⟩
    · intro holder apart
      obtain ⟨first, second, whole, -, -, grown⟩ := contents holder
      have unheld : (homeFor members.keys id).holder? ≠ some holder := by
        intro held
        obtain ⟨name, declared, rfl, there⟩ := leaf.holder?_eq_some_iff.mp held
        exact apart name declared ((built.has_typeId_iff name).mpr there) rfl
      rw [if_neg unheld, List.append_nil] at grown
      rw [whole, grown]
  · rw [Option.not_isSome_iff_eq_none] at known
    have same := inserted_skipped built built' split distinct fresh known
    refine ⟨fun _ => same, assembly, ?_, ?_, fun _ _ => by rw [same]⟩
    · simp [known]
    · simp [known]

end Insertion

/-- One more leaf, wherever it stands in the file, is added at its place and disturbs nothing. -/
theorem build_undisturbed {values : Settings.Values}
    (accepted : Settings.ofValues values = .ok settings) (plain : settings.replacement ≠ "\\")
    {before after : Ordered String Comment} (split : file.comments = before ++ after)
    (distinct : file.comments.keys.Nodup) (fresh : id ∉ file.comments.keys)
    (leaf : IsLeaf settings id) (comment : Comment)
    (run : (build settings file).2 = .ok c) :
    ∃ d, (build settings (withMember file before after id comment)).2 = .ok d ∧
      Inserted settings before after id comment c d := by
  have plain := Settings.replacement_plain accepted plain
  have run : build settings file = ((build settings file).1, .ok c) := Prod.ext rfl run
  have resolved : ∀ other ∈ file.comments.keys, ¬Refused settings other := by
    rcases build_plain plain file with ⟨-, _, _, failed⟩ | ⟨allowed, -⟩
    · rw [failed] at run
      cases run
    · exact allowed
  obtain ⟨members, spaces, built⟩ := build_ok run
  -- With a plain replacement building fails at an unresolved id only, and the leaf is none.
  rcases build_plain plain (withMember file before after id comment) with
    ⟨⟨other, there, refused⟩, -⟩ | ⟨-, notices, d, run'⟩
  · have cases : other = id ∨ other ∈ file.comments.keys := by
      rw [split]
      simpa [withMember, Ordered.keys, or_left_comm] using there
    rcases cases with rfl | there
    · exact absurd refused leaf.not_refused
    · exact absurd refused (resolved other there)
  · obtain ⟨members', spaces', built'⟩ := build_ok run'
    exact ⟨d, by rw [run'], inserted_of_built built built' split distinct fresh leaf⟩

/-- A field in front of the type that declares it, which holds a method already. -/
theorem build_undisturbed_sample :
    sampleFile.comments = sampleFile.comments.take 1 ++ sampleFile.comments.drop 1 ∧
      sampleFile.comments.keys.Nodup ∧ "F:A.B.C.x" ∉ sampleFile.comments.keys ∧
      IsLeaf {} "F:A.B.C.x" ∧
      ∃ c d, (build {} sampleFile).2 = .ok c ∧
        (build {} (withMember sampleFile (sampleFile.comments.take 1) (sampleFile.comments.drop 1)
          "F:A.B.C.x" ⟨⟨.plain "member", [], .empty⟩⟩)).2 = .ok d ∧
        Inserted {} (sampleFile.comments.take 1) (sampleFile.comments.drop 1) "F:A.B.C.x"
          ⟨⟨.plain "member", [], .empty⟩⟩ c d ∧
        d.contents "T:A.B.C" = ["F:A.B.C.x", "M:A.B.C.D(X)"] := by
  have accepted : Settings.ofValues [] = .ok {} := by rfl
  have split : sampleFile.comments = sampleFile.comments.take 1 ++ sampleFile.comments.drop 1 :=
    (List.take_append_drop 1 _).symm
  have distinct : sampleFile.comments.keys.Nodup := by decide
  have fresh : "F:A.B.C.x" ∉ sampleFile.comments.keys := by decide
  have leaf : IsLeaf {} "F:A.B.C.x" := ⟨by decide, fun _ => rfl⟩
  refine ⟨split, distinct, fresh, leaf, ?_⟩
  have fine : (build {} sampleFile).2.toOption.isSome = true := by decide +kernel
  have held : (build {} (withMember sampleFile (sampleFile.comments.take 1)
      (sampleFile.comments.drop 1) "F:A.B.C.x" ⟨⟨.plain "member", [], .empty⟩⟩)).2.toOption.map
        (·.contents "T:A.B.C") = some ["F:A.B.C.x", "M:A.B.C.D(X)"] := by decide +kernel
  cases run : (build {} sampleFile).2 with
  | error fault =>
    rw [run] at fine
    cases fine
  | ok c =>
    obtain ⟨d, run', inserted⟩ := build_undisturbed accepted (by decide) split distinct fresh leaf
      ⟨⟨.plain "member", [], .empty⟩⟩ run
    rw [run'] at held
    exact ⟨c, d, rfl, run', inserted, by simpa [Except.toOption] using held⟩

end Catalog

end Apidoc
