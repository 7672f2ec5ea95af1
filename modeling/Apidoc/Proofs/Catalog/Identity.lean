import Apidoc.Proofs.Catalog.Placement

/-!
Which entities a built catalog has, and what they are called. The ids are those of the members with
a known letter, followed by the namespaces that are implied; the latter are described here by the
file alone, without the way in which linking finds them.
-/
namespace Apidoc

theorem MemberId.kind?_isSome_iff (id : String) :
    (MemberId.kind? id).isSome ↔ (MemberId.split id).letter ∈ ["N", "T", "M", "P", "F", "E"] := by
  simp only [MemberId.kind?, Kind.ofLetter?, Kind.letters, List.lookup_isSome_iff]
  simp

/-- Values that are asked for in turn are first asked for in the order in which they stand once
repetitions are dropped. -/
theorem pairwise_first {α β : Type} [DecidableEq β] (need : α → Option β) (xs : List α) :
    (xs.filterMap need).eraseDups.Pairwise fun a b =>
      xs.findIdx (need · = some a) < xs.findIdx (need · = some b) := by
  induction xs using List.reverseRecOn with
  | nil => simp
  | append_singleton xs x ih =>
    have old : ∀ a ∈ xs.filterMap need,
        (xs ++ [x]).findIdx (need · = some a) = xs.findIdx (need · = some a) ∧
          xs.findIdx (need · = some a) < xs.length := by
      intro a there
      obtain ⟨y, listed, found⟩ := List.mem_filterMap.mp there
      have early : xs.findIdx (need · = some a) < xs.length :=
        List.findIdx_lt_length.mpr ⟨y, listed, decide_eq_true found⟩
      exact ⟨by rw [List.findIdx_append, if_pos early], early⟩
    rw [List.filterMap_append, List.eraseDups_append]
    apply List.pairwise_append.mpr
    refine ⟨?_, ?_, ?_⟩
    · apply ih.imp_of_mem
      intro a b first second before
      rw [(old a (List.mem_eraseDups.mp first)).1, (old b (List.mem_eraseDups.mp second)).1]
      exact before
    · cases found : need x with
      | none => simp [found]
      | some b =>
        simp only [List.filterMap_cons, found, List.filterMap_nil, List.cons_removeAll,
          List.nil_removeAll]
        split
        · exact List.pairwise_singleton _ b
        · exact List.Pairwise.nil
    · intro a first b second
      rw [List.mem_eraseDups] at first second
      obtain ⟨-, new⟩ := List.mem_filter.mp second
      have late : ¬xs.findIdx (need · = some b) < xs.length := by
        intro early
        obtain ⟨y, listed, found⟩ := List.findIdx_lt_length.mp early
        have there := List.mem_filterMap.mpr ⟨y, listed, of_decide_eq_true found⟩
        simp [there] at new
      obtain ⟨same, short⟩ := old a first
      rw [same, List.findIdx_append, if_neg late]
      omega

theorem Linking.namespaceId_injective {name other : String}
    (same : namespaceId name = namespaceId other) : name = other := by
  apply String.toList_injective
  have chars := congrArg String.toList same
  simpa [namespaceId] using chars

namespace Catalog

open Linking (Home typeId namespaceId)

/-- The ids in a catalog that are not those of members of the file. -/
def implied (c : Catalog) (file : CommentFile) : List String :=
  c.entities.keys.filter fun id => !file.comments.has id

def declaredIn (space id : String) : Bool :=
  MemberId.kind? id = some .type &&
    (MemberId.declaringName (MemberId.split id).fullName).map namespaceId = some space

def membersBefore (file : CommentFile) (space : String) : Nat :=
  file.comments.keys.findIdx (declaredIn space)

structure Identified (settings : Settings) (id : String) (e : Entity) : Prop where
  identity : e.id = some id
  kind : Kind.ofLetter? (MemberId.split id).letter = some e.kind
  fullName : e.fullName = some (MemberId.split id).fullName
  name : e.name = some (MemberId.split id).name
  stem : ∃ stem, Stem.render settings.stemOptions id = .ok stem ∧ e.stem = some stem

structure Bare (c : Catalog) (name : String) (e : Entity) : Prop where
  fullName : e.fullName = some name
  comment : e.comment = none
  description : e.description = none
  seeAlso : e.seeAlso = []
  inhabited : ∃ id member, id ∈ c.contents (namespaceId name) ∧ c.find? id = some member ∧
    member.kind = .type

structure Composed (settings : Settings) (file : CommentFile) (c : Catalog) : Prop where
  distinct : c.entities.keys.Nodup
  listed : c.entities.keys =
    file.comments.keys.filter
      (fun id => (MemberId.split id).letter ∈ ["N", "T", "M", "P", "F", "E"]) ++ c.implied file
  implied_iff : ∀ name, namespaceId name ∈ c.implied file ↔
    (∃ id e, c.find? id = some e ∧ e.kind = .type ∧ e.declaring? = some name) ∧
      file.comments.has (typeId name) = false ∧ file.comments.has (namespaceId name) = false ∧
      ¬Encloses file c name
  ordered : (c.implied file).Pairwise fun first second =>
    membersBefore file first < membersBefore file second
  identified : ∀ id e, c.find? id = some e → Identified settings id e
  bare : ∀ id ∈ c.implied file,
    ∃ name e, id = namespaceId name ∧ c.find? id = some e ∧ Bare c name e

variable {settings : Settings} {file : CommentFile} {c : Catalog}
  {members spaces : Ordered String Entity}

theorem entityFor_identified {kind : Kind} {id : String} {comment : Option Comment} {e : Entity}
    (known : MemberId.kind? id = some kind)
    (made : entityFor settings kind id comment = .ok e) : Identified settings id e := by
  obtain ⟨sameId, sameKind, sameName⟩ := entityFor_ok made
  obtain ⟨stem, rendered, rfl⟩ := entityFor_made made
  refine ⟨sameId, by rw [sameKind]; exact known, sameName, ?_, stem, rendered, ?_⟩
  · cases comment <;> rfl
  · cases comment <;> rfl

/-- The keys of the entities that are made of members are those with a known letter. -/
theorem keys_made {comments : Ordered String Comment}
    (created : ∀ member ∈ comments,
      ∃ outcome, create settings member.1 (some member.2) = .ok outcome) :
    Ordered.keys (comments.filterMap (entityOf? settings)) =
      comments.keys.filter fun id => (MemberId.kind? id).isSome := by
  induction comments with
  | nil => rfl
  | cons member rest ih =>
    have later := ih fun other there => created other (List.mem_cons_of_mem member there)
    obtain ⟨outcome, made⟩ := created member List.mem_cons_self
    simp only [Ordered.keys, List.map_cons, List.filter_cons] at later ⊢
    cases known : MemberId.kind? member.1 with
    | none =>
      have skipped : entityOf? settings member = none := by
        apply Option.eq_none_iff_forall_ne_some.mpr
        intro entry same
        have lettered := (create_entity (entityOf?_eq_some_iff.mp same).1).kind
        rw [known] at lettered
        cases lettered
      simpa [List.filterMap_cons, skipped] using later
    | some kind =>
      obtain ⟨e, rfl⟩ := Built.create_known known made
      have kept : entityOf? settings member = some (member.1, e) :=
        entityOf?_eq_some_iff.mpr ⟨made, rfl⟩
      simpa [List.filterMap_cons, kept] using later

namespace Built

theorem keys_members (built : Built settings file c members spaces)
    (distinct : file.comments.keys.Nodup) :
    members.keys = file.comments.keys.filter fun id => (MemberId.kind? id).isSome := by
  have keys := keys_made built.created
  have once : (Ordered.keys (file.comments.filterMap (entityOf? settings))).Nodup := by
    rw [keys]
    exact distinct.filter _
  rw [built.members_eq, Ordered.ofList_of_nodup once, keys]

theorem not_documented (built : Built settings file c members spaces) {id : String}
    (there : id ∈ spaces.keys) : id ∉ file.comments.keys := by
  intro documented
  have lettered : (MemberId.kind? id).isSome := by rw [built.kind?_space there]; rfl
  obtain ⟨member, -, needed⟩ := built.mem_spaces_iff.mp there
  exact (needed_cases needed).1 (built.mem_members_iff.mpr ⟨documented, lettered⟩)

theorem implied_eq (built : Built settings file c members spaces) :
    c.implied file = spaces.keys := by
  rw [implied, built.keys_eq, List.filter_append]
  have none : members.keys.filter (fun id => !file.comments.has id) = [] := by
    apply List.filter_eq_nil_iff.mpr
    intro id there
    simp [Ordered.has_eq_true_iff.mpr (built.mem_members_iff.mp there).1]
  have all : spaces.keys.filter (fun id => !file.comments.has id) = spaces.keys := by
    apply List.filter_eq_self.mpr
    intro id there
    rw [Bool.not_eq_true', ← Bool.not_eq_true, Ordered.has_eq_true_iff]
    exact built.not_documented there
  rw [none, all, List.nil_append]

theorem identified (built : Built settings file c members spaces) {id : String} {e : Entity}
    (found : c.find? id = some e) : Identified settings id e := by
  have there := Ordered.mem_of_find?_eq_some found
  rw [built.entities] at there
  rcases List.mem_append.mp there with member | space
  · rw [built.members_eq] at member
    obtain ⟨source, -, kept⟩ := List.mem_filterMap.mp (Ordered.mem_of_mem_ofList member)
    obtain ⟨created, rfl⟩ := entityOf?_eq_some_iff.mp kept
    obtain ⟨kind, known, made⟩ := create_made created
    exact entityFor_identified known made
  · exact entityFor_identified (built.kind?_space (Ordered.mem_keys_of_mem space))
      (built.spaces_bare _ space)

theorem has_eq_false_iff (built : Built settings file c members spaces) {id : String} {kind : Kind}
    (known : MemberId.kind? id = some kind) :
    file.comments.has id = false ↔ id ∉ members.keys := by
  rw [built.mem_members_iff, known, ← Ordered.has_eq_true_iff]
  simp

/-- A type needs an undocumented namespace when its declaring name stands for no member and lies
inside no documented type. -/
theorem needed_iff (built : Built settings file c members spaces) (member name : String) :
    (homeFor members.keys member).needed? = some (namespaceId name) ↔
      declaredIn (namespaceId name) member = true ∧ file.comments.has (typeId name) = false ∧
        file.comments.has (namespaceId name) = false ∧ ¬Encloses file c name := by
  rw [built.has_eq_false_iff (kind?_typeId name), built.has_eq_false_iff (kind?_namespaceId name),
    built.encloses_iff, declaredIn, Bool.and_eq_true, decide_eq_true_eq, decide_eq_true_eq,
    Option.map_eq_some_iff]
  constructor
  · intro needed
    have belongs := belongs_homeFor members.keys member
    generalize homeFor members.keys member = home at belongs needed
    cases belongs with
    | implied other declared isType outside absent apart =>
      obtain rfl := Linking.namespaceId_injective (Option.some.inj needed)
      exact ⟨⟨isType, other, declared, rfl⟩, outside, absent, Bool.eq_false_iff.mp apart⟩
    | _ => cases needed
  · rintro ⟨⟨isType, other, declared, same⟩, outside, absent, apart⟩
    obtain rfl := Linking.namespaceId_injective same
    simp [homeFor, isType, declared, outside, absent, apart, Home.needed?]

theorem mem_spaces_cases (built : Built settings file c members spaces) {id : String}
    (there : id ∈ spaces.keys) :
    ∃ name, id = namespaceId name ∧ file.comments.has (typeId name) = false ∧
      file.comments.has (namespaceId name) = false ∧ ¬Encloses file c name := by
  obtain ⟨member, -, needed⟩ := built.mem_spaces_iff.mp there
  obtain ⟨-, -, name, rfl, -⟩ := needed_cases needed
  exact ⟨name, rfl, ((built.needed_iff member name).mp needed).2⟩

theorem implied_iff (built : Built settings file c members spaces) (name : String) :
    namespaceId name ∈ c.implied file ↔
      (∃ id e, c.find? id = some e ∧ e.kind = .type ∧ e.declaring? = some name) ∧
        file.comments.has (typeId name) = false ∧ file.comments.has (namespaceId name) = false ∧
        ¬Encloses file c name := by
  rw [built.implied_eq, built.mem_spaces_iff]
  constructor
  · rintro ⟨member, listed, needed⟩
    obtain ⟨-, isType, other, same, declared⟩ := needed_cases needed
    obtain rfl := Linking.namespaceId_injective same
    obtain ⟨e, found⟩ := built.find?_isSome_iff.mpr (Or.inl listed)
    refine ⟨⟨member, e, found, ?_, ?_⟩, ((built.needed_iff member name).mp needed).2⟩
    · have own := (built.described_all found).kind
      rw [isType, Option.some.injEq] at own
      exact own.symm
    · rw [built.declaring?_eq found, declared]
  · rintro ⟨⟨id, e, found, isType, declared⟩, free⟩
    have own := (built.described_all found).kind
    rw [isType] at own
    rw [built.declaring?_eq found] at declared
    have listed := built.mem_of_kind? (mem_keys_of_find? found) (by rw [own]; decide)
    have inside : declaredIn (namespaceId name) id = true := by simp [declaredIn, own, declared]
    exact ⟨id, listed, (built.needed_iff id name).mpr ⟨inside, free⟩⟩

theorem implied_ordered (built : Built settings file c members spaces)
    (distinct : file.comments.keys.Nodup) :
    (c.implied file).Pairwise fun first second =>
      membersBefore file first < membersBefore file second := by
  have keys : spaces.keys =
      (file.comments.keys.filterMap fun id => (homeFor members.keys id).needed?).eraseDups := by
    have lettered : ∀ id, (if (MemberId.kind? id).isSome = true
        then (homeFor members.keys id).needed? else none) =
        (homeFor members.keys id).needed? := by
      intro id
      cases needed : (homeFor members.keys id).needed? with
      | none => simp
      | some space => simp [(needed_cases needed).2.1]
    calc spaces.keys
        = (members.keys.filterMap fun id => (homeFor members.keys id).needed?).eraseDups :=
          built.keys_spaces
      _ = ((file.comments.keys.filter fun id => (MemberId.kind? id).isSome).filterMap
            fun id => (homeFor members.keys id).needed?).eraseDups := by
          rw [← built.keys_members distinct]
      _ = (file.comments.keys.filterMap fun id => (homeFor members.keys id).needed?).eraseDups := by
          rw [List.filterMap_filter]
          simp only [lettered]
  -- A type that is declared in a needed namespace needs it itself, for what else is asked is the same
  -- for all of them. So the first to need it is the first to be declared in it.
  have first : ∀ space ∈ spaces.keys, membersBefore file space =
      file.comments.keys.findIdx fun id => (homeFor members.keys id).needed? = some space := by
    intro space there
    obtain ⟨name, rfl, free⟩ := built.mem_spaces_cases there
    apply congrArg (file.comments.keys.findIdx ·)
    funext id
    rw [Bool.eq_iff_iff, decide_eq_true_eq, built.needed_iff]
    exact ⟨fun inside => ⟨inside, free⟩, fun all => all.1⟩
  have order := pairwise_first (fun id => (homeFor members.keys id).needed?) file.comments.keys
  rw [built.implied_eq]
  rw [← keys] at order
  apply order.imp_of_mem
  intro a b one two before
  rw [first a one, first b two]
  exact before

theorem bare (built : Built settings file c members spaces) {id : String}
    (there : id ∈ spaces.keys) :
    ∃ name e, id = namespaceId name ∧ c.find? id = some e ∧ Bare c name e := by
  obtain ⟨member, listed, needed⟩ := built.mem_spaces_iff.mp there
  obtain ⟨-, isType, name, rfl, declared⟩ := needed_cases needed
  obtain ⟨e, found⟩ := built.find?_isSome_iff.mpr (Or.inr there)
  obtain ⟨type, foundType⟩ := built.find?_isSome_iff.mpr (Or.inl listed)
  have space : (namespaceId name, e) ∈ spaces := by
    have entry := Ordered.mem_of_find?_eq_some found
    rw [built.entities] at entry
    rcases List.mem_append.mp entry with documented | space
    · exact absurd (Ordered.mem_keys_of_mem documented) (needed_cases needed).1
    · exact space
  have held : (homeFor members.keys member).holder? = some (namespaceId name) := by
    cases home : homeFor members.keys member with
    | implied other => rw [home] at needed; exact needed
    | _ => rw [home] at needed; cases needed
  have inside : member ∈ c.contents (namespaceId name) := by
    rw [built.contents_eq]
    exact List.mem_filter.mpr ⟨listed, by simp [held]⟩
  obtain ⟨declaring, outer, same, foundOuter, -, named⟩ := built.holder_cases inside
  rw [declared, Option.some.injEq] at same
  rw [found, Option.some.injEq] at foundOuter
  subst same foundOuter
  have made : entityFor settings .space (namespaceId name) none = .ok e := built.spaces_bare _ space
  obtain ⟨stem, -, rfl⟩ := entityFor_made made
  have typeKind := (built.described_all foundType).kind
  rw [isType, Option.some.injEq] at typeKind
  exact ⟨name, _, rfl, found, named, rfl, rfl, rfl, member, type, inside, foundType, typeKind.symm⟩

end Built

/-- The entities of a built catalog are those of the members, in order, and the namespaces that
their types imply; all have the labels that their ids give. -/
theorem build_composed {notices : List Notice} (distinct : file.comments.keys.Nodup)
    (run : build settings file = (notices, .ok c)) : Composed settings file c := by
  obtain ⟨members, spaces, built⟩ := build_ok run
  refine ⟨built.distinct_all, ?_, built.implied_iff, built.implied_ordered distinct, ?_, ?_⟩
  · rw [built.keys_eq, built.implied_eq, built.keys_members distinct]
    simp only [← MemberId.kind?_isSome_iff, Bool.decide_eq_true]
  · intro id e found
    exact built.identified found
  · intro id there
    rw [built.implied_eq] at there
    exact built.bare there

def mixedFile : CommentFile :=
  ⟨none, ["T:B.Z", "M:A.X.Go(A.X)", "T:A.X", "T:B.Y", "!:Q", "N:N", "T:N.K", "T:A.X.In.Deep"].map
    (·, ⟨⟨.plain "member", [], .empty⟩⟩), CommentFile.textSource⟩

theorem build_composed_sample :
    mixedFile.comments.keys.Nodup ∧ ∃ notices c, build {} mixedFile = (notices, .ok c) ∧
      Composed {} mixedFile c ∧ c.implied mixedFile = ["N:B", "N:A"] := by
  have distinct : mixedFile.comments.keys.Nodup := by decide
  have spaces : ((build {} mixedFile).2.toOption.map (·.implied mixedFile)) =
      some ["N:B", "N:A"] := by decide +kernel
  refine ⟨distinct, ?_⟩
  cases run : build {} mixedFile with
  | mk notices outcome =>
    rw [run] at spaces
    cases outcome with
    | error fault => cases spaces
    | ok c =>
      exact ⟨notices, c, rfl, build_composed distinct run, by simpa [Except.toOption] using spaces⟩

end Catalog

end Apidoc
