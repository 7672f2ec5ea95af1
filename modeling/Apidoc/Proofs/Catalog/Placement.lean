import Apidoc.Proofs.Catalog.Build

/-!
Where each entity of a built catalog is. An entity is in one container at most, the one that its
declaring name stands for, and what a container holds is in the order of the catalog.
-/
namespace Apidoc

def Entity.declaring? (e : Entity) : Option String :=
  e.fullName.bind MemberId.declaringName

namespace Catalog

open Linking (Home typeId namespaceId)

def Unheld (c : Catalog) (id : String) : Prop :=
  ∀ holder, id ∉ c.contents holder

/-- An entity that occurs once in what `holder` holds, which is of the given kind, and nowhere
else. -/
def HeldOnce (c : Catalog) (kind : Kind) (holder id : String) : Prop :=
  (∃ e, c.find? holder = some e ∧ e.kind = kind) ∧
    ∀ other, (c.contents other).count id = if other = holder then 1 else 0

/-- A documented type whose full name, with a dot behind it, begins the given name. -/
def Encloses (file : CommentFile) (c : Catalog) (name : String) : Prop :=
  ∃ id e outer rest, file.comments.has id = true ∧ c.find? id = some e ∧ e.kind = .type ∧
    e.fullName = some outer ∧ name = outer ++ "." ++ rest

/-- The place of an entity that is no namespace, for each thing that its declaring name may be. -/
structure PlacedExactly (file : CommentFile) (c : Catalog) (id : String) (e : Entity) : Prop where
  undotted : e.declaring? = none → c.Unheld id
  inType : ∀ name, e.declaring? = some name → c.entities.has (typeId name) = true →
    c.HeldOnce .type (typeId name) id
  member : ∀ name, e.declaring? = some name → c.entities.has (typeId name) = false →
    e.kind ≠ .type → c.Unheld id
  inNamespace : ∀ name, e.declaring? = some name → c.entities.has (typeId name) = false →
    e.kind = .type → file.comments.has (namespaceId name) = true →
    c.HeldOnce .space (namespaceId name) id
  enclosed : ∀ name, e.declaring? = some name → c.entities.has (typeId name) = false →
    e.kind = .type → file.comments.has (namespaceId name) = false →
    Encloses file c name → c.Unheld id
  implied : ∀ name, e.declaring? = some name → c.entities.has (typeId name) = false →
    e.kind = .type → file.comments.has (namespaceId name) = false →
    ¬Encloses file c name → c.HeldOnce .space (namespaceId name) id

structure Arrangement (file : CommentFile) (c : Catalog) : Prop where
  distinct : c.entities.keys.Nodup
  created : ∀ id kind, file.comments.has id = true → MemberId.kind? id = some kind →
    ∃ e, c.find? id = some e ∧ e.kind = kind
  placed : ∀ id e, file.comments.has id = true → c.find? id = some e → e.kind ≠ .space →
    PlacedExactly file c id e
  namespaces : ∀ id e, c.find? id = some e → e.kind = .space → c.Unheld id
  ordered : ∀ holder, (c.contents holder).Sublist c.entities.keys
  declared : ∀ holder id, id ∈ c.contents holder →
    ∃ outer e, c.find? holder = some outer ∧ (outer.kind = .type ∨ outer.kind = .space) ∧
      c.find? id = some e ∧ e.declaring?.isSome ∧ e.declaring? = outer.fullName
  single : ∀ first second id, id ∈ c.contents first → id ∈ c.contents second → first = second
  grounded : WellFounded fun holder id => id ∈ c.contents holder

variable {settings : Settings} {file : CommentFile} {c : Catalog}
  {members spaces : Ordered String Entity}

theorem contents_of_placements {ids : List String} {holder? : String → Option String}
    (places : c.placements = ids.filterMap fun id => (holder? id).map (·, id)) (holder : String) :
    c.contents holder = ids.filter (holder? · = some holder) := by
  rw [contents, places]
  clear places
  induction ids with
  | nil => rfl
  | cons id ids ih =>
    rw [List.filterMap_cons, List.filter_cons]
    cases found : holder? id with
    | none => simpa using ih
    | some other =>
      simp only [Option.map_some, List.filter_cons, Option.some.injEq]
      by_cases same : other = holder
      · simpa [same] using ih
      · simpa [same] using ih

namespace Built

theorem contents_eq (built : Built settings file c members spaces) (holder : String) :
    c.contents holder =
      members.keys.filter fun id => (homeFor members.keys id).holder? = some holder :=
  contents_of_placements built.placements holder

theorem encloses_iff (built : Built settings file c members spaces) (name : String) :
    Encloses file c name ↔
      MemberId.isInsideSome (typeNamesOf members.keys) name = true := by
  rw [MemberId.isInsideSome_eq_true_iff]
  constructor
  · rintro ⟨id, e, outer, rest, -, found, isType, named, same⟩
    have own := built.described_all found
    have known : MemberId.kind? id = some .type := by rw [own.kind, isType]
    have listed := built.mem_of_kind? (mem_keys_of_find? found) (by rw [known]; decide)
    rw [own.fullName, Option.some.injEq] at named
    refine ⟨outer, List.mem_map.mpr ⟨id, ?_, named⟩, rest, same⟩
    exact List.mem_filter.mpr ⟨listed, by simp [known]⟩
  · rintro ⟨outer, listed, rest, same⟩
    obtain ⟨id, typed, rfl⟩ := List.mem_map.mp listed
    obtain ⟨member, known⟩ := List.mem_filter.mp typed
    obtain ⟨e, found⟩ := built.find?_isSome_iff.mpr (Or.inl member)
    have own := built.described_all found
    have isType : some e.kind = some Kind.type := by
      rw [← own.kind]
      simpa using known
    exact ⟨id, e, _, rest, Ordered.has_eq_true_iff.mpr (built.mem_members_iff.mp member).1, found,
      Option.some.inj isType, own.fullName, same⟩

theorem unheld (built : Built settings file c members spaces) {id : String}
    (homeless : (homeFor members.keys id).holder? = none) : c.Unheld id := by
  intro holder there
  rw [built.contents_eq] at there
  have held := (List.mem_filter.mp there).2
  simp [homeless] at held

theorem count_contents (built : Built settings file c members spaces) {id holder : String}
    (listed : id ∈ members.keys) (held : (homeFor members.keys id).holder? = some holder) :
    ∀ other, (c.contents other).count id = if other = holder then 1 else 0 := by
  intro other
  rw [built.contents_eq]
  by_cases same : other = holder
  · rw [if_pos same, List.count_filter (by simp [held, same])]
    exact List.count_eq_one_of_mem built.distinct listed
  · rw [if_neg same, List.count_eq_zero]
    intro there
    have here := (List.mem_filter.mp there).2
    simp only [held, Option.some.injEq, decide_eq_true_eq] at here
    exact same here.symm

theorem mem_of_mem_contents (built : Built settings file c members spaces) {holder id : String}
    (there : id ∈ c.contents holder) :
    id ∈ members.keys ∧ (homeFor members.keys id).holder? = some holder := by
  rw [built.contents_eq] at there
  simpa using there

/-- What holds an entity is a type or a namespace of the catalog, with the entity's declaring
name. -/
theorem holder_cases (built : Built settings file c members spaces) {holder id : String}
    (there : id ∈ c.contents holder) :
    ∃ name outer, MemberId.declaringName (MemberId.split id).fullName = some name ∧
      c.find? holder = some outer ∧ (outer.kind = .type ∨ outer.kind = .space) ∧
      outer.fullName = some name := by
  obtain ⟨listed, held⟩ := built.mem_of_mem_contents there
  have lettered : (MemberId.split id).letter ≠ "" := by
    intro none
    have known := (built.mem_members_iff.mp listed).2
    rw [MemberId.kind?, none] at known
    cases known
  have named : ∃ name, MemberId.declaringName (MemberId.split id).fullName = some name ∧
      (holder = typeId name ∨ holder = namespaceId name) ∧
      (holder ∈ members.keys ∨ holder ∈ spaces.keys) := by
    have belongs := belongs_homeFor members.keys id
    generalize at_home : homeFor members.keys id = home at belongs held
    cases belongs with
    | inType name declared present =>
      cases held
      exact ⟨name, declared, Or.inl rfl, Or.inl present⟩
    | inNamespace name declared isType present =>
      cases held
      exact ⟨name, declared, Or.inr rfl, Or.inl present⟩
    | implied name declared isType outside absent apart =>
      cases held
      exact ⟨name, declared, Or.inr rfl,
        Or.inr (built.mem_spaces_iff.mpr ⟨id, listed, by rw [at_home]; rfl⟩)⟩
    | _ => cases held
  obtain ⟨name, declared, spelled, present⟩ := named
  obtain ⟨outer, found⟩ := built.find?_isSome_iff.mpr present
  have own := built.described_all found
  have noParen :=
    MemberId.paren_not_mem_declaringName (MemberId.paren_not_mem_fullName lettered) declared
  refine ⟨name, outer, declared, found, ?_⟩
  rcases spelled with rfl | rfl
  · have isType : some outer.kind = some Kind.type := own.kind.symm.trans (kind?_typeId name)
    exact ⟨Or.inl (Option.some.inj isType),
      own.fullName.trans (congrArg some (Linking.fullName_typeId noParen))⟩
  · have isSpace : some outer.kind = some Kind.space :=
      own.kind.symm.trans (kind?_namespaceId name)
    exact ⟨Or.inr (Option.some.inj isSpace),
      own.fullName.trans (congrArg some (Linking.fullName_namespaceId noParen))⟩

theorem declaring?_eq (built : Built settings file c members spaces) {id : String} {e : Entity}
    (found : c.find? id = some e) :
    e.declaring? = MemberId.declaringName (MemberId.split id).fullName := by
  rw [Entity.declaring?, (built.described_all found).fullName]
  rfl

/-- A holder has a shorter full name than what it holds, so following holders comes to an end. -/
theorem grounded (built : Built settings file c members spaces) :
    WellFounded fun holder id => id ∈ c.contents holder := by
  apply Subrelation.wf ?_ (measure fun id => (MemberId.split id).fullName.length).wf
  intro holder id there
  obtain ⟨name, outer, declared, found, -, named⟩ := built.holder_cases there
  have own := (built.described_all found).fullName
  rw [named, Option.some.injEq] at own
  have shorter := MemberId.length_declaringName_lt declared
  rw [own] at shorter
  exact shorter

theorem heldOnce (built : Built settings file c members spaces) {id holder : String} {kind : Kind}
    (listed : id ∈ members.keys) (held : (homeFor members.keys id).holder? = some holder)
    (known : MemberId.kind? holder = some kind) : c.HeldOnce kind holder id := by
  have counts := built.count_contents listed held
  have there : id ∈ c.contents holder := by
    apply List.count_pos_iff.mp
    rw [counts holder, if_pos rfl]
    exact Nat.one_pos
  obtain ⟨name, outer, -, found, -, -⟩ := built.holder_cases there
  have same := (built.described_all found).kind
  rw [known, Option.some.injEq] at same
  exact ⟨⟨outer, found, same.symm⟩, counts⟩

theorem placedExactly (built : Built settings file c members spaces) {id : String} {e : Entity}
    (listed : id ∈ members.keys) (found : c.find? id = some e) (noSpace : e.kind ≠ .space) :
    PlacedExactly file c id e := by
  have own := (built.described_all found).kind
  have declaring := built.declaring?_eq found
  constructor
  · intro undotted
    rw [declaring] at undotted
    have home : homeFor members.keys id = .top := by simp [homeFor, undotted]
    exact built.unheld (by rw [home]; rfl)
  · intro name declared there
    rw [declaring] at declared
    rw [built.has_typeId_iff] at there
    have home : homeFor members.keys id = .inside (typeId name) := by
      simp [homeFor, own, noSpace, declared, there]
    exact built.heldOnce listed (by rw [home]; rfl) (kind?_typeId name)
  · intro name declared outside isMember
    rw [declaring] at declared
    rw [← Bool.not_eq_true, built.has_typeId_iff] at outside
    have home : homeFor members.keys id = .unknown := by
      simp [homeFor, own, noSpace, declared, outside, isMember]
    exact built.unheld (by rw [home]; rfl)
  · intro name declared outside isType there
    rw [declaring] at declared
    rw [← Bool.not_eq_true, built.has_typeId_iff] at outside
    rw [built.has_namespaceId_iff] at there
    have home : homeFor members.keys id = .inside (namespaceId name) := by
      simp [homeFor, own, declared, outside, isType, there]
    exact built.heldOnce listed (by rw [home]; rfl) (kind?_namespaceId name)
  · intro name declared outside isType absent encloses
    rw [declaring] at declared
    rw [← Bool.not_eq_true, built.has_typeId_iff] at outside
    rw [← Bool.not_eq_true, built.has_namespaceId_iff] at absent
    rw [built.encloses_iff] at encloses
    have home : homeFor members.keys id = .unknown := by
      simp [homeFor, own, declared, outside, isType, absent, encloses]
    exact built.unheld (by rw [home]; rfl)
  · intro name declared outside isType absent apart
    rw [declaring] at declared
    rw [← Bool.not_eq_true, built.has_typeId_iff] at outside
    rw [← Bool.not_eq_true, built.has_namespaceId_iff] at absent
    rw [built.encloses_iff] at apart
    have home : homeFor members.keys id = .implied (namespaceId name) := by
      simp [homeFor, own, declared, outside, isType, absent, apart]
    exact built.heldOnce listed (by rw [home]; rfl) (kind?_namespaceId name)

theorem unheld_of_space (built : Built settings file c members spaces) {id : String} {e : Entity}
    (found : c.find? id = some e) (isSpace : e.kind = .space) : c.Unheld id := by
  have known := (built.described_all found).kind
  have home : homeFor members.keys id = .top := by simp [homeFor, known, isSpace]
  exact built.unheld (by rw [home]; rfl)

theorem contents_sublist (built : Built settings file c members spaces) (holder : String) :
    (c.contents holder).Sublist c.entities.keys := by
  rw [built.contents_eq, built.keys_eq]
  exact List.filter_sublist.trans (List.sublist_append_left _ _)

end Built

/-- Building puts every entity where its declaring name says, once, and nothing anywhere else. -/
theorem build_arranges {notices : List Notice} (run : build settings file = (notices, .ok c)) :
    Arrangement file c := by
  obtain ⟨members, spaces, built⟩ := build_ok run
  refine ⟨built.distinct_all, ?_, ?_, ?_, built.contents_sublist, ?_, ?_, built.grounded⟩
  · intro id kind documented known
    rw [Ordered.has_eq_true_iff] at documented
    have listed := built.mem_members_iff.mpr ⟨documented, by rw [known]; rfl⟩
    obtain ⟨e, found⟩ := built.find?_isSome_iff.mpr (Or.inl listed)
    have same := (built.described_all found).kind
    rw [known, Option.some.injEq] at same
    exact ⟨e, found, same.symm⟩
  · intro id e documented found noSpace
    rw [Ordered.has_eq_true_iff] at documented
    have known := (built.described_all found).kind
    exact built.placedExactly (built.mem_members_iff.mpr ⟨documented, by rw [known]; rfl⟩) found
      noSpace
  · intro id e found isSpace
    exact built.unheld_of_space found isSpace
  · intro holder id there
    obtain ⟨name, outer, declared, found, kinded, named⟩ := built.holder_cases there
    obtain ⟨e, own⟩ := built.find?_isSome_iff.mpr (Or.inl (built.mem_of_mem_contents there).1)
    refine ⟨outer, e, found, kinded, own, ?_⟩
    rw [built.declaring?_eq own, declared, named]
    exact ⟨rfl, rfl⟩
  · intro first second id there also
    have here := (built.mem_of_mem_contents there).2
    rw [(built.mem_of_mem_contents also).2, Option.some.injEq] at here
    exact here.symm

/-- A nested type, a method with parameters, a type inside an undocumented one, a documented
namespace and a field without a dot. -/
def sampleFile : CommentFile :=
  ⟨none, ["T:A.B", "T:A.B.C", "M:A.B.C.D(X)", "T:A.B.X.Y", "N:N", "T:N.K", "F:Q"].map
    (·, ⟨⟨.plain "member", [], .empty⟩⟩), CommentFile.textSource⟩

theorem build_arranges_sample :
    ∃ notices c, build {} sampleFile = (notices, .ok c) ∧ Arrangement sampleFile c ∧
      c.placements = [("N:A", "T:A.B"), ("T:A.B", "T:A.B.C"), ("T:A.B.C", "M:A.B.C.D(X)"),
        ("N:N", "T:N.K")] := by
  have places : ((build {} sampleFile).2.toOption.map (·.placements)) =
      some [("N:A", "T:A.B"), ("T:A.B", "T:A.B.C"), ("T:A.B.C", "M:A.B.C.D(X)"),
        ("N:N", "T:N.K")] := by decide +kernel
  cases run : build {} sampleFile with
  | mk notices outcome =>
    rw [run] at places
    cases outcome with
    | error fault => cases places
    | ok c => exact ⟨notices, c, rfl, build_arranges run, by simpa [Except.toOption] using places⟩

end Catalog

end Apidoc
