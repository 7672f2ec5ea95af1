import Apidoc.Proofs.Catalog.Placement
import Apidoc.Proofs.Stem

/-!
The order of the members of a file decides the order of what a catalog lists and of nothing else:
who is documented, who is implied and who holds whom stay the same.
-/
namespace Apidoc.Catalog

open Linking (namespaceId)

variable {settings : Settings} {file : CommentFile}

def Refused (settings : Settings) (id : String) : Prop :=
  (MemberId.split id).letter = unresolvedLetter ∧ settings.skipUnresolved = false

theorem create_refused {id : String} (refused : Refused settings id) (comment : Option Comment) :
    create settings id comment = .error (.unresolved id) := by
  simp [create, refused.1, refused.2]

theorem entityFor_plain (plain : '\\' ∉ settings.replacement.toList) {id : String}
    (nonempty : id ≠ "") (kind : Kind) (comment : Option Comment) :
    ∃ e, entityFor settings kind id comment = .ok e := by
  obtain ⟨stem, rendered⟩ := Stem.render_plain settings.stemOptions plain nonempty
  simp only [entityFor, rendered, bind, Except.bind]
  exact ⟨_, rfl⟩

theorem ne_empty_of_kind? {id : String} {kind : Kind} (known : MemberId.kind? id = some kind) :
    id ≠ "" := by
  rintro rfl
  cases known

theorem create_error (plain : '\\' ∉ settings.replacement.toList) {id : String}
    {comment : Option Comment} {fault : Fault}
    (failed : create settings id comment = .error fault) :
    fault = .unresolved id ∧ Refused settings id := by
  unfold create at failed
  simp only at failed
  split at failed
  · next letter =>
    split at failed
    · cases failed
    · next strict =>
      cases failed
      exact ⟨rfl, letter, Bool.eq_false_iff.mpr strict⟩
  · split at failed
    · cases failed
    · next kind known =>
      obtain ⟨e, made⟩ := entityFor_plain plain (ne_empty_of_kind? known) kind comment
      simp [made] at failed

theorem refusal_plain (plain : '\\' ∉ settings.replacement.toList) {id : String}
    (nonempty : id ≠ "") : refusal settings id = none := by
  obtain ⟨stem, rendered⟩ := Stem.render_plain settings.stemOptions plain nonempty
  rw [refusal, rendered]

theorem link_plain (plain : '\\' ∉ settings.replacement.toList) {c : Catalog}
    (described : ∀ entry ∈ c.entities, Described entry.1 entry.2) :
    ∃ notices linked, link settings c = (notices, .ok linked) := by
  have stems : ∀ r ∈ c.entities.map row, ∀ id,
      (homeFor c.entities.keys r.handle).needed? = some id → refusal settings id = none := by
    intro r _ id needed
    obtain ⟨-, -, name, rfl, -⟩ := needed_cases needed
    exact refusal_plain plain (ne_empty_of_kind? (kind?_namespaceId name))
  have clean : (Linking.plan (c.entities.map row) (refusal settings)).2 = none :=
    Linking.planFrom_no_fault (homes_known described) stems
  simp only [link, clean]
  exact ⟨_, _, rfl⟩

/-- With a plain replacement building fails for ids that are refused, and for nothing else. -/
theorem build_plain (plain : '\\' ∉ settings.replacement.toList) (file : CommentFile) :
    (∃ id ∈ file.comments.keys, Refused settings id) ∧
        (∃ notices id, build settings file = (notices, .error (.unresolved id))) ∨
      (∀ id ∈ file.comments.keys, ¬Refused settings id) ∧
        ∃ notices c, build settings file = (notices, .ok c) := by
  cases made : createAll settings file.comments with
  | mk notices outcome =>
    cases outcome with
    | error fault =>
      left
      obtain ⟨member, listed, failed⟩ := createAll_error made
      obtain ⟨rfl, refused⟩ := create_error plain failed
      refine ⟨⟨member.1, Ordered.mem_keys_of_mem listed, refused⟩, notices, member.1, ?_⟩
      simp only [build, made]
    | ok list =>
      right
      obtain ⟨rfl, created⟩ := createAll_ok made
      constructor
      · intro id there refused
        obtain ⟨comment, listed⟩ := Ordered.exists_of_mem_keys there
        obtain ⟨outcome, created⟩ := created _ listed
        rw [create_refused refused] at created
        cases created
      · obtain ⟨more, linked, run⟩ := link_plain plain
          (c := ⟨file.assembly, Ordered.ofList (file.comments.filterMap (entityOf? settings)), []⟩)
          fun entry there => described_ofList there
        simp only [build, made, run]
        exact ⟨_, _, rfl⟩

theorem typeNamesOf_congr {ids others : List String} (same : ∀ id, id ∈ ids ↔ id ∈ others)
    (name : String) : name ∈ typeNamesOf ids ↔ name ∈ typeNamesOf others := by
  simp only [typeNamesOf, List.mem_map, List.mem_filter, same]

/-- Where an entity belongs depends on which ids there are, not on their order. -/
theorem homeFor_congr {ids others : List String} (same : ∀ id, id ∈ ids ↔ id ∈ others)
    (id : String) : homeFor ids id = homeFor others id := by
  have inside : ∀ name, MemberId.isInsideSome (typeNamesOf ids) name =
      MemberId.isInsideSome (typeNamesOf others) name := by
    intro name
    rw [Bool.eq_iff_iff, MemberId.isInsideSome_eq_true_iff, MemberId.isInsideSome_eq_true_iff]
    simp only [typeNamesOf_congr same]
  simp only [homeFor, same, inside]

theorem keys_made_sublist (settings : Settings) (comments : Ordered String Comment) :
    (Ordered.keys (comments.filterMap (entityOf? settings))).Sublist comments.keys := by
  induction comments with
  | nil => exact List.Sublist.refl []
  | cons member rest ih =>
    rw [List.filterMap_cons]
    cases made : entityOf? settings member with
    | none => exact ih.cons member.1
    | some entry =>
      have same := (entityOf?_eq_some_iff.mp made).2
      simp only [Ordered.keys, List.map_cons, same] at ih ⊢
      exact ih.cons_cons member.1

namespace Built

variable {other : CommentFile} {c d : Catalog}
  {members spaces members' spaces' : Ordered String Entity}

theorem members_perm (built : Built settings file c members spaces)
    (built' : Built settings other d members' spaces') (distinct : file.comments.keys.Nodup)
    (shuffled : file.comments.Perm other.comments) : members.Perm members' := by
  have distinct' : other.comments.keys.Nodup := (shuffled.map Prod.fst).nodup_iff.mp distinct
  rw [built.members_eq, built'.members_eq,
    Ordered.ofList_of_nodup ((keys_made_sublist settings file.comments).nodup distinct),
    Ordered.ofList_of_nodup ((keys_made_sublist settings other.comments).nodup distinct')]
  exact shuffled.filterMap _

theorem mem_entry_spaces_iff (built : Built settings file c members spaces)
    {entry : String × Entity} :
    entry ∈ spaces ↔
      entry.1 ∈ spaces.keys ∧ entityFor settings .space entry.1 none = .ok entry.2 := by
  obtain ⟨id, e⟩ := entry
  constructor
  · intro there
    exact ⟨Ordered.mem_keys_of_mem there, built.spaces_bare _ there⟩
  · rintro ⟨there, made⟩
    obtain ⟨e', listed⟩ := Ordered.exists_of_mem_keys there
    have same := built.spaces_bare _ listed
    rw [made] at same
    cases same
    exact listed

theorem spaces_perm (built : Built settings file c members spaces)
    (built' : Built settings other d members' spaces')
    (same : ∀ id, id ∈ members.keys ↔ id ∈ members'.keys) : spaces.Perm spaces' := by
  apply (List.perm_ext_iff_of_nodup (List.Nodup.of_map _ built.distinct_spaces)
    (List.Nodup.of_map _ built'.distinct_spaces)).mpr
  intro entry
  rw [built.mem_entry_spaces_iff, built'.mem_entry_spaces_iff, built.mem_spaces_iff,
    built'.mem_spaces_iff]
  simp only [same, homeFor_congr same]

theorem entities_perm (built : Built settings file c members spaces)
    (built' : Built settings other d members' spaces') (listed : members.Perm members') :
    c.entities.Perm d.entities := by
  rw [built.entities, built'.entities]
  exact listed.append (built.spaces_perm built' fun id => (listed.map Prod.fst).mem_iff)

theorem contents_perm (built : Built settings file c members spaces)
    (built' : Built settings other d members' spaces') (listed : members.Perm members')
    (holder : String) : (c.contents holder).Perm (d.contents holder) := by
  have shuffled : members.keys.Perm members'.keys := listed.map Prod.fst
  rw [built.contents_eq, built'.contents_eq]
  simp only [homeFor_congr fun id => shuffled.mem_iff]
  exact shuffled.filter _

end Built

/-- Files with the same members in different orders give catalogs with the same entities that hold
the same, or are both refused. -/
theorem build_reordered {given : Settings.Values} {other : CommentFile}
    (accepted : Settings.ofValues given = .ok settings) (plain : settings.replacement ≠ "\\")
    (distinct : file.comments.keys.Nodup) (shuffled : file.comments.Perm other.comments) :
    (∃ id id', (build settings file).2 = .error (.unresolved id) ∧
        (build settings other).2 = .error (.unresolved id')) ∨
      ∃ c d, (build settings file).2 = .ok c ∧ (build settings other).2 = .ok d ∧
        c.entities.Perm d.entities ∧ (∀ id, c.find? id = d.find? id) ∧
        ∀ holder, (c.contents holder).Perm (d.contents holder) := by
  have plain := Settings.replacement_plain accepted plain
  have members : ∀ id, id ∈ file.comments.keys ↔ id ∈ other.comments.keys := fun id =>
    (shuffled.map Prod.fst).mem_iff
  rcases build_plain plain file with ⟨⟨id, there, refused⟩, failure⟩ | ⟨allowed, success⟩
  · rcases build_plain plain other with ⟨-, failure'⟩ | ⟨allowed, -⟩
    · obtain ⟨_, id, failed⟩ := failure
      obtain ⟨_, id', failed'⟩ := failure'
      exact Or.inl ⟨id, id', by rw [failed], by rw [failed']⟩
    · exact absurd refused (allowed id ((members id).mp there))
  · rcases build_plain plain other with ⟨⟨id, there, refused⟩, -⟩ | ⟨-, success'⟩
    · exact absurd refused (allowed id ((members id).mpr there))
    · obtain ⟨_, c, run⟩ := success
      obtain ⟨_, d, run'⟩ := success'
      obtain ⟨_, _, built⟩ := build_ok run
      obtain ⟨_, _, built'⟩ := build_ok run'
      have listed := built.members_perm built' distinct shuffled
      have entities := built.entities_perm built' listed
      exact Or.inr ⟨c, d, by rw [run], by rw [run'], entities,
        Ordered.find?_perm built.distinct_all entities, built.contents_perm built' listed⟩

theorem build_reordered_sample :
    ∃ c d, (build {} sampleFile).2 = .ok c ∧
      (build {} { sampleFile with comments := sampleFile.comments.reverse }).2 = .ok d ∧
      c.entities ≠ d.entities ∧ c.entities.Perm d.entities ∧
      ∀ holder, (c.contents holder).Perm (d.contents holder) := by
  have accepted : Settings.ofValues [] = .ok {} := by rfl
  have distinct : sampleFile.comments.keys.Nodup := by decide
  have turned : sampleFile.comments.Perm
      { sampleFile with comments := sampleFile.comments.reverse }.comments :=
    (List.reverse_perm _).symm
  have order : ((build {} sampleFile).2.toOption.map (·.entities.keys)) ≠
      (build {} { sampleFile with comments := sampleFile.comments.reverse }).2.toOption.map
        (·.entities.keys) := by decide +kernel
  rcases build_reordered accepted (by decide) distinct turned with
    ⟨_, _, failed, -⟩ | ⟨c, d, run, run', entities, -, contents⟩
  · have fine : (build {} sampleFile).2.toOption.isSome = true := by decide +kernel
    rw [failed] at fine
    cases fine
  · refine ⟨c, d, run, run', ?_, entities, contents⟩
    rintro same
    rw [run, run'] at order
    exact order (by simp [Except.toOption, same])

end Apidoc.Catalog
