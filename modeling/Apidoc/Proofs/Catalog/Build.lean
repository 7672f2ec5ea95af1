import Apidoc.Proofs.Catalog.Linking

/-!
What a built catalog is made of: the entities of the members whose letter is known, with the labels
that their ids give them, and the namespaces that these need. Where an entity belongs depends on the
ids of the members alone.
-/
namespace Apidoc

namespace Linking

theorem letter_typeId (name : String) : (MemberId.split (typeId name)).letter = "T" :=
  MemberId.letter_split "T" name (by decide)

theorem letter_namespaceId (name : String) : (MemberId.split (namespaceId name)).letter = "N" :=
  MemberId.letter_split "N" name (by decide)

theorem fullName_typeId {name : String} (noParen : '(' ∉ name.toList) :
    (MemberId.split (typeId name)).fullName = name :=
  MemberId.fullName_split "T" name (by decide) noParen

theorem fullName_namespaceId {name : String} (noParen : '(' ∉ name.toList) :
    (MemberId.split (namespaceId name)).fullName = name :=
  MemberId.fullName_split "N" name (by decide) noParen

end Linking

def MemberId.kind? (id : String) : Option Kind :=
  Kind.ofLetter? (MemberId.split id).letter

namespace Catalog

open Linking (Home Row homeOf rowAt? typeId namespaceId typeNames)

theorem kind?_typeId (name : String) : MemberId.kind? (typeId name) = some .type := by
  rw [MemberId.kind?, Linking.letter_typeId]
  rfl

theorem kind?_namespaceId (name : String) : MemberId.kind? (namespaceId name) = some .space := by
  rw [MemberId.kind?, Linking.letter_namespaceId]
  rfl

structure Described (id : String) (e : Entity) : Prop where
  identity : e.id = some id
  kind : MemberId.kind? id = some e.kind
  fullName : e.fullName = some (MemberId.split id).fullName

/-- What the entity for an id is made of: a stem, the labels that the id gives, and the comment. -/
theorem entityFor_made {settings : Settings} {kind : Kind} {id : String}
    {comment : Option Comment} {e : Entity} (made : entityFor settings kind id comment = .ok e) :
    ∃ stem, Stem.render settings.stemOptions id = .ok stem ∧
      e = { (Entity.new kind id (MemberId.split id).name (MemberId.split id).fullName
              stem).setComment comment with
            seeAlso := comment.toList.flatMap Entity.linksOf } := by
  unfold entityFor at made
  cases rendered : Stem.render settings.stemOptions id with
  | error fault => simp [rendered, bind, Except.bind] at made
  | ok stem =>
    simp only [rendered, bind, Except.bind, pure, Except.pure, Except.ok.injEq] at made
    exact ⟨stem, rfl, made.symm⟩

theorem entityFor_ok {settings : Settings} {kind : Kind} {id : String} {comment : Option Comment}
    {e : Entity} (made : entityFor settings kind id comment = .ok e) :
    e.id = some id ∧ e.kind = kind ∧ e.fullName = some (MemberId.split id).fullName := by
  obtain ⟨stem, -, rfl⟩ := entityFor_made made
  cases comment with
  | none => exact ⟨rfl, Details.kind_initial kind, rfl⟩
  | some c =>
    refine ⟨rfl, ?_, rfl⟩
    exact (Details.kind_derive _ _).trans (Details.kind_initial kind)

theorem create_made {settings : Settings} {id : String} {comment : Option Comment} {e : Entity}
    (created : create settings id comment = .ok (.entity e)) :
    ∃ kind, MemberId.kind? id = some kind ∧ entityFor settings kind id comment = .ok e := by
  unfold create at created
  simp only at created
  split at created
  · split at created <;> cases created
  · split at created
    · cases created
    · next kind known =>
      split at created
      · next entity made =>
        cases created
        exact ⟨kind, known, made⟩
      · cases created

theorem create_entity {settings : Settings} {id : String} {comment : Option Comment} {e : Entity}
    (created : create settings id comment = .ok (.entity e)) : Described id e := by
  obtain ⟨kind, known, made⟩ := create_made created
  obtain ⟨hid, hkind, hname⟩ := entityFor_ok made
  exact ⟨hid, by rw [hkind]; exact known, hname⟩

def entityOf? (settings : Settings) (member : String × Comment) : Option (String × Entity) :=
  match create settings member.1 (some member.2) with
  | .ok (.entity e) => some (member.1, e)
  | _ => none

theorem entityOf?_eq_some_iff {settings : Settings} {member : String × Comment}
    {entry : String × Entity} :
    entityOf? settings member = some entry ↔
      create settings member.1 (some member.2) = .ok (.entity entry.2) ∧ entry.1 = member.1 := by
  unfold entityOf?
  constructor
  · intro made
    split at made
    · next e created =>
      cases made
      exact ⟨created, rfl⟩
    · cases made
  · rintro ⟨created, same⟩
    rw [created, ← same]

/-- The members of a file are made one by one, and each of them has an outcome. -/
theorem createAll_ok {settings : Settings} {members : List (String × Comment)}
    {notices : List Notice} {made : List (String × Entity)}
    (created : createAll settings members = (notices, .ok made)) :
    made = members.filterMap (entityOf? settings) ∧
      ∀ member ∈ members, ∃ outcome, create settings member.1 (some member.2) = .ok outcome := by
  induction members generalizing notices made with
  | nil =>
    simp only [createAll, Prod.mk.injEq, Except.ok.injEq] at created
    exact ⟨created.2.symm, by intro member none; cases none⟩
  | cons member rest ih =>
    cases later : createAll settings rest with
    | mk more outcome =>
      simp only [createAll, later] at created
      split at created
      · cases created
      · next notice skipped =>
        simp only [Prod.mk.injEq] at created
        obtain ⟨same, all⟩ := ih (later.trans (Prod.ext rfl created.2))
        refine ⟨?_, ?_⟩
        · rw [List.filterMap_cons]
          simp only [entityOf?, skipped]
          exact same
        · intro m hm
          rcases List.mem_cons.mp hm with rfl | hm
          · exact ⟨_, skipped⟩
          · exact all m hm
      · next e entity =>
        cases outcome with
        | error fault => simp [Except.map] at created
        | ok tail =>
          simp only [Except.map, Prod.mk.injEq, Except.ok.injEq] at created
          obtain ⟨same, all⟩ := ih later
          refine ⟨?_, ?_⟩
          · rw [List.filterMap_cons, ← created.2]
            simp only [entityOf?, entity, same]
          · intro m hm
            rcases List.mem_cons.mp hm with rfl | hm
            · exact ⟨_, entity⟩
            · exact all m hm

theorem createAll_error {settings : Settings} {members : List (String × Comment)}
    {notices : List Notice} {fault : Fault}
    (created : createAll settings members = (notices, .error fault)) :
    ∃ member ∈ members, create settings member.1 (some member.2) = .error fault := by
  induction members generalizing notices with
  | nil => simp [createAll] at created
  | cons member rest ih =>
    cases later : createAll settings rest with
    | mk more outcome =>
      simp only [createAll, later] at created
      split at created
      · next reason stopped =>
        simp only [Prod.mk.injEq, Except.error.injEq] at created
        exact ⟨member, List.mem_cons_self, by rw [stopped, created.2]⟩
      · simp only [Prod.mk.injEq] at created
        obtain ⟨m, hm, stopped⟩ := ih (later.trans (Prod.ext rfl created.2))
        exact ⟨m, List.mem_cons_of_mem member hm, stopped⟩
      · cases outcome with
        | ok tail => simp [Except.map] at created
        | error reason =>
          simp only [Except.map, Prod.mk.injEq, Except.error.injEq] at created
          obtain ⟨m, hm, stopped⟩ := ih (by rw [later, created.2])
          exact ⟨m, List.mem_cons_of_mem member hm, stopped⟩

def typeNamesOf (ids : List String) : List String :=
  (ids.filter (MemberId.kind? · = some .type)).map fun id => (MemberId.split id).fullName

def homeFor (ids : List String) (id : String) : Home String :=
  if MemberId.kind? id = some .space then .top
  else
    match MemberId.declaringName (MemberId.split id).fullName with
    | none => .top
    | some declaring =>
      if typeId declaring ∈ ids then .inside (typeId declaring)
      else if MemberId.kind? id ≠ some .type then .unknown
      else if namespaceId declaring ∈ ids then .inside (namespaceId declaring)
      else if MemberId.isInsideSome (typeNamesOf ids) declaring then .unknown
      else .implied (namespaceId declaring)

inductive Belongs (ids : List String) (id : String) : Home String → Prop where
  | space (isSpace : MemberId.kind? id = some .space) : Belongs ids id .top
  | undotted (declared : MemberId.declaringName (MemberId.split id).fullName = none) :
      Belongs ids id .top
  | inType (name : String)
      (declared : MemberId.declaringName (MemberId.split id).fullName = some name)
      (there : typeId name ∈ ids) : Belongs ids id (.inside (typeId name))
  | member (isMember : MemberId.kind? id ≠ some .type) : Belongs ids id .unknown
  | inNamespace (name : String)
      (declared : MemberId.declaringName (MemberId.split id).fullName = some name)
      (isType : MemberId.kind? id = some .type)
      (there : namespaceId name ∈ ids) : Belongs ids id (.inside (namespaceId name))
  | enclosed (isType : MemberId.kind? id = some .type) : Belongs ids id .unknown
  | implied (name : String)
      (declared : MemberId.declaringName (MemberId.split id).fullName = some name)
      (isType : MemberId.kind? id = some .type)
      (outside : typeId name ∉ ids) (absent : namespaceId name ∉ ids)
      (apart : MemberId.isInsideSome (typeNamesOf ids) name = false) :
      Belongs ids id (.implied (namespaceId name))

theorem belongs_homeFor (ids : List String) (id : String) : Belongs ids id (homeFor ids id) := by
  unfold homeFor
  split
  · next isSpace => exact .space isSpace
  · split
    · next declared => exact .undotted declared
    · next name declared =>
      split
      · next there => exact .inType name declared there
      · next outside =>
        split
        · next isMember => exact .member isMember
        · next isType =>
          have isType := not_not.mp isType
          split
          · next there => exact .inNamespace name declared isType there
          · next absent =>
            split
            · exact .enclosed isType
            · next apart =>
              exact .implied name declared isType outside absent (Bool.eq_false_iff.mpr apart)

variable {entries : Ordered String Entity}

theorem rowAt?_row (entries : Ordered String Entity) (key : String) :
    rowAt? (entries.map row) key = (entries.find? key).map fun e => row (key, e) := by
  induction entries with
  | nil => rfl
  | cons entry rest ih =>
    simp only [rowAt?, List.map_cons, List.find?_cons, Ordered.find?, row, Option.some_beq_some]
      at ih ⊢
    by_cases same : entry.1 = key
    · simp [same]
    · simp only [same, beq_eq_false_iff_ne.mpr same, if_false, ih]

theorem typeNames_row (described : ∀ entry ∈ entries, Described entry.1 entry.2) :
    typeNames (entries.map row) = typeNamesOf entries.keys := by
  induction entries with
  | nil => rfl
  | cons entry rest ih =>
    have first := described entry List.mem_cons_self
    have later := ih fun other there => described other (List.mem_cons_of_mem entry there)
    simp only [typeNames, typeNamesOf, Ordered.keys, List.map_cons, List.filter_cons] at later ⊢
    simp only [row, first.kind, Option.some.injEq]
    by_cases isType : entry.2.kind = .type
    · simp only [isType, decide_true, if_true, List.filterMap_cons, List.map_cons, first.fullName]
      exact congrArg _ later
    · simp only [isType, decide_false, Bool.false_eq_true, if_false]
      exact later

/-- What is found under the id of a type or a namespace is one. -/
theorem kind_of_find? (described : ∀ entry ∈ entries, Described entry.1 entry.2) {id : String}
    {kind : Kind} {e : Entity} (known : MemberId.kind? id = some kind)
    (found : entries.find? id = some e) : e.kind = kind := by
  have same := (described _ (Ordered.mem_of_find?_eq_some found)).kind
  rw [known] at same
  exact (Option.some.inj same).symm

theorem mem_keys_of_find? {id : String} {e : Entity} (found : entries.find? id = some e) :
    id ∈ entries.keys :=
  Ordered.mem_keys_of_mem (Ordered.mem_of_find?_eq_some found)

theorem namespaceHome_row (described : ∀ entry ∈ entries, Described entry.1 entry.2)
    (declaring : String) :
    Linking.namespaceHome (entries.map row) declaring =
      .ok (if namespaceId declaring ∈ entries.keys then .inside (namespaceId declaring)
        else if MemberId.isInsideSome (typeNamesOf entries.keys) declaring then .unknown
        else .implied (namespaceId declaring)) := by
  unfold Linking.namespaceHome
  rw [rowAt?_row, typeNames_row described]
  cases found : entries.find? (namespaceId declaring) with
  | none =>
    have absent := Ordered.find?_eq_none_iff.mp found
    simp only [Option.map_none, absent, if_false]
    split <;> rfl
  | some e =>
    have there := mem_keys_of_find? found
    have isSpace := kind_of_find? described (kind?_namespaceId declaring) found
    simp [there, row, isSpace]

/-- Where an entity belongs depends on the ids alone, and every entity belongs somewhere. -/
theorem homeOf_row (described : ∀ entry ∈ entries, Described entry.1 entry.2)
    {entry : String × Entity} (there : entry ∈ entries) :
    homeOf (entries.map row) (row entry) = .ok (homeFor entries.keys entry.1) := by
  have own := described entry there
  unfold homeOf homeFor
  simp only [row, own.kind, own.fullName, Option.some.injEq]
  split
  · rfl
  · cases MemberId.declaringName (MemberId.split entry.1).fullName with
    | none => rfl
    | some declaring =>
      simp only [rowAt?_row]
      cases found : entries.find? (typeId declaring) with
      | none =>
        have absent := Ordered.find?_eq_none_iff.mp found
        simp only [Option.map_none, Option.filter_none, absent, if_false,
          namespaceHome_row described]
        by_cases isType : entry.2.kind = .type
        · simp [isType]
        · simp [isType]
      | some e =>
        have listed := mem_keys_of_find? found
        have isType := kind_of_find? described (kind?_typeId declaring) found
        simp [listed, row, isType, Option.filter_some]

/-- What building a catalog from a file comes to: `members` are the entities of the members, and
`spaces` the namespaces that they imply. -/
structure Built (settings : Settings) (file : CommentFile) (c : Catalog)
    (members spaces : Ordered String Entity) : Prop where
  assembly : c.assembly = file.assembly
  entities : c.entities = members ++ spaces
  members_eq : members = Ordered.ofList (file.comments.filterMap (entityOf? settings))
  created : ∀ member ∈ file.comments,
    ∃ outcome, create settings member.1 (some member.2) = .ok outcome
  keys_spaces : spaces.keys =
    (members.keys.filterMap fun id => (homeFor members.keys id).needed?).eraseDups
  spaces_bare : ∀ entry ∈ spaces, entityFor settings .space entry.1 none = .ok entry.2
  placements : c.placements =
    members.keys.filterMap fun id => (homeFor members.keys id).holder?.map (·, id)

theorem described_ofList {settings : Settings} {comments : List (String × Comment)}
    {entry : String × Entity}
    (there : entry ∈ Ordered.ofList (comments.filterMap (entityOf? settings))) :
    Described entry.1 entry.2 := by
  obtain ⟨member, -, made⟩ := List.mem_filterMap.mp (Ordered.mem_of_mem_ofList there)
  obtain ⟨created, same⟩ := entityOf?_eq_some_iff.mp made
  rw [same]
  exact create_entity created

theorem entityFor_of_refusal {settings : Settings} {id : String}
    (allowed : refusal settings id = none) (kind : Kind) (comment : Option Comment) :
    ∃ e, entityFor settings kind id comment = .ok e := by
  unfold refusal at allowed
  split at allowed
  · next stem rendered =>
    simp only [entityFor, rendered, bind, Except.bind, pure, Except.pure]
    exact ⟨_, rfl⟩
  · cases allowed

theorem foldl_addSpace {settings : Settings} {ids : List String} (distinct : ids.Nodup)
    (fresh : ∀ id ∈ ids, id ∉ entries.keys) (allowed : ∀ id ∈ ids, refusal settings id = none) :
    ∃ spaces : Ordered String Entity,
      ids.foldl (addSpace settings) entries = entries ++ spaces ∧ spaces.keys = ids ∧
      ∀ entry ∈ spaces, entityFor settings .space entry.1 none = .ok entry.2 := by
  induction ids generalizing entries with
  | nil => exact ⟨[], by simp, rfl, by intro entry none; cases none⟩
  | cons id ids ih =>
    obtain ⟨absent, distinct⟩ := List.nodup_cons.mp distinct
    obtain ⟨e, made⟩ := entityFor_of_refusal (allowed id List.mem_cons_self) .space none
    have grown : addSpace settings entries id = entries ++ [(id, e)] := by
      rw [addSpace, made]
      exact Ordered.insert_of_not_mem (fresh id List.mem_cons_self) e
    have still : ∀ other ∈ ids, other ∉ Ordered.keys (entries ++ [(id, e)]) := by
      intro other there
      have old := fresh other (List.mem_cons_of_mem id there)
      simp only [Ordered.keys, List.map_append, List.map_cons, List.map_nil, List.mem_append,
        List.mem_singleton, not_or] at old ⊢
      exact ⟨old, by rintro rfl; exact absent there⟩
    obtain ⟨spaces, folded, listed, bare⟩ :=
      ih distinct still fun other there => allowed other (List.mem_cons_of_mem id there)
    refine ⟨(id, e) :: spaces, ?_, ?_, ?_⟩
    · rw [List.foldl_cons, grown, folded]
      simp
    · rw [← listed]
      rfl
    · intro entry there
      rcases List.mem_cons.mp there with rfl | there
      · exact made
      · exact bare entry there

/-- A namespace that is needed is not documented, and some type is declared in it. -/
theorem needed_cases {ids : List String} {member id : String}
    (needed : (homeFor ids member).needed? = some id) :
    id ∉ ids ∧ MemberId.kind? member = some .type ∧
      ∃ name, id = namespaceId name ∧
        MemberId.declaringName (MemberId.split member).fullName = some name := by
  have belongs := belongs_homeFor ids member
  generalize homeFor ids member = home at belongs needed
  cases belongs with
  | implied name declared isType outside absent apart =>
    cases needed
    exact ⟨absent, isType, name, rfl, declared⟩
  | _ => cases needed

theorem homes_known (described : ∀ entry ∈ entries, Described entry.1 entry.2) :
    ∀ r ∈ entries.map row, homeOf (entries.map row) r = .ok (homeFor entries.keys r.handle) := by
  intro r hr
  obtain ⟨entry, there, rfl⟩ := List.mem_map.mp hr
  exact homeOf_row described there

/-- The links of a catalog whose entities have the labels that their ids give them. -/
theorem link_ok {settings : Settings} {c linked : Catalog} {notices : List Notice}
    (described : ∀ entry ∈ c.entities, Described entry.1 entry.2)
    (run : link settings c = (notices, .ok linked)) :
    ∃ spaces : Ordered String Entity,
      linked.assembly = c.assembly ∧ linked.entities = c.entities ++ spaces ∧
      spaces.keys =
        (c.entities.keys.filterMap fun id => (homeFor c.entities.keys id).needed?).eraseDups ∧
      (∀ entry ∈ spaces, entityFor settings .space entry.1 none = .ok entry.2) ∧
      linked.placements = c.placements ++
        c.entities.keys.filterMap fun id => (homeFor c.entities.keys id).holder?.map (·, id) := by
  unfold link at run
  cases planned : Linking.plan (c.entities.map row) (refusal settings) with
  | mk events fault =>
    simp only [planned] at run
    cases fault with
    | some fault => cases run
    | none =>
      simp only [Prod.mk.injEq, Except.ok.injEq] at run
      have known := homes_known described
      obtain ⟨additions, allowed⟩ := Linking.added_planFrom known planned
      have places := Linking.placed_planFrom known planned
      rw [List.removeAll_nil, List.filterMap_map] at additions
      rw [List.filterMap_map] at places
      have distinct : (Linking.added events).Nodup := by
        rw [additions]
        exact nodup_eraseDups _
      have fresh : ∀ id ∈ Linking.added events, id ∉ c.entities.keys := by
        intro id there
        rw [additions, List.mem_eraseDups] at there
        obtain ⟨entry, -, needed⟩ := List.mem_filterMap.mp there
        exact (needed_cases needed).1
      obtain ⟨spaces, folded, listed, bare⟩ := foldl_addSpace distinct fresh allowed
      rw [foldl_carryOut, folded, places] at run
      refine ⟨spaces, ?_, ?_, ?_, bare, ?_⟩
      · rw [← run.2]
      · rw [← run.2]
      · rw [listed, additions, Ordered.keys, List.filterMap_map]
        rfl
      · rw [← run.2, Ordered.keys, List.filterMap_map]
        rfl

theorem build_ok {settings : Settings} {file : CommentFile} {notices : List Notice} {c : Catalog}
    (built : build settings file = (notices, .ok c)) :
    ∃ members spaces, Built settings file c members spaces := by
  unfold build at built
  cases made : createAll settings file.comments with
  | mk first outcome =>
    cases outcome with
    | error fault => simp only [made] at built; cases built
    | ok list =>
      obtain ⟨rfl, created⟩ := createAll_ok made
      simp only [made] at built
      split at built
      · cases built
      · next more catalog linked =>
        simp only [Prod.mk.injEq, Except.ok.injEq] at built
        obtain ⟨-, rfl⟩ := built
        obtain ⟨spaces, assembly, entities, keys, bare, places⟩ :=
          link_ok (fun entry there => described_ofList there) linked
        exact ⟨_, spaces, assembly, entities, rfl, created, keys, bare, places⟩

variable {settings : Settings} {file : CommentFile} {c : Catalog}
  {members spaces : Ordered String Entity}

namespace Built

theorem distinct (built : Built settings file c members spaces) : members.keys.Nodup := by
  rw [built.members_eq]
  exact Ordered.nodup_keys_ofList _

theorem described (built : Built settings file c members spaces) {entry : String × Entity}
    (there : entry ∈ members) : Described entry.1 entry.2 := by
  rw [built.members_eq] at there
  exact described_ofList there

theorem create_known {id : String} {kind : Kind} {comment : Option Comment} {outcome : Creation}
    (known : MemberId.kind? id = some kind)
    (created : create settings id comment = .ok outcome) : ∃ e, outcome = .entity e := by
  unfold MemberId.kind? at known
  unfold create at created
  simp only [known] at created
  split at created
  · next unresolved =>
    rw [unresolved] at known
    cases known
  · split at created
    · cases created
      exact ⟨_, rfl⟩
    · cases created

theorem mem_members_iff (built : Built settings file c members spaces) {id : String} :
    id ∈ members.keys ↔ id ∈ file.comments.keys ∧ (MemberId.kind? id).isSome := by
  rw [built.members_eq, Ordered.keys_ofList, List.mem_eraseDups]
  constructor
  · intro there
    obtain ⟨e, entry⟩ := Ordered.exists_of_mem_keys there
    obtain ⟨member, listed, made⟩ := List.mem_filterMap.mp entry
    obtain ⟨created, rfl⟩ := entityOf?_eq_some_iff.mp made
    exact ⟨Ordered.mem_keys_of_mem listed, by rw [(create_entity created).kind]; rfl⟩
  · rintro ⟨there, lettered⟩
    obtain ⟨comment, listed⟩ := Ordered.exists_of_mem_keys there
    obtain ⟨kind, known⟩ := Option.isSome_iff_exists.mp lettered
    obtain ⟨outcome, created⟩ := built.created _ listed
    obtain ⟨e, rfl⟩ := create_known known created
    exact Ordered.mem_keys_of_mem
      (List.mem_filterMap.mpr ⟨_, listed, entityOf?_eq_some_iff.mpr ⟨created, rfl⟩⟩)

theorem mem_spaces_iff (built : Built settings file c members spaces) {id : String} :
    id ∈ spaces.keys ↔
      ∃ member ∈ members.keys, (homeFor members.keys member).needed? = some id := by
  rw [built.keys_spaces, List.mem_eraseDups, List.mem_filterMap]

theorem kind?_space (built : Built settings file c members spaces) {id : String}
    (there : id ∈ spaces.keys) : MemberId.kind? id = some .space := by
  obtain ⟨member, -, needed⟩ := built.mem_spaces_iff.mp there
  obtain ⟨-, -, name, rfl, -⟩ := needed_cases needed
  exact kind?_namespaceId name

theorem described_space (built : Built settings file c members spaces) {entry : String × Entity}
    (there : entry ∈ spaces) : Described entry.1 entry.2 := by
  obtain ⟨hid, hkind, hname⟩ := entityFor_ok (built.spaces_bare entry there)
  refine ⟨hid, ?_, hname⟩
  rw [hkind]
  exact built.kind?_space (Ordered.mem_keys_of_mem there)

theorem described_all (built : Built settings file c members spaces) {id : String} {e : Entity}
    (found : c.find? id = some e) : Described id e := by
  have there := Ordered.mem_of_find?_eq_some found
  rw [built.entities] at there
  rcases List.mem_append.mp there with member | space
  · exact built.described member
  · exact built.described_space space

theorem keys_eq (built : Built settings file c members spaces) :
    c.entities.keys = members.keys ++ spaces.keys := by
  rw [built.entities]
  exact List.map_append

theorem distinct_spaces (built : Built settings file c members spaces) : spaces.keys.Nodup := by
  rw [built.keys_spaces]
  exact nodup_eraseDups _

theorem distinct_all (built : Built settings file c members spaces) : c.entities.keys.Nodup := by
  rw [built.keys_eq]
  apply built.distinct.append built.distinct_spaces
  intro id member space
  obtain ⟨other, -, needed⟩ := built.mem_spaces_iff.mp space
  exact (needed_cases needed).1 member

theorem find?_isSome_iff (built : Built settings file c members spaces) {id : String} :
    (∃ e, c.find? id = some e) ↔ id ∈ members.keys ∨ id ∈ spaces.keys := by
  rw [← List.mem_append, ← built.keys_eq, ← Ordered.has_eq_true_iff, Ordered.has,
    Option.isSome_iff_exists]
  rfl

/-- Only namespaces are implied, so an id of another kind is that of a member. -/
theorem mem_of_kind? (built : Built settings file c members spaces) {id : String}
    (there : id ∈ c.entities.keys) (known : MemberId.kind? id ≠ some .space) :
    id ∈ members.keys := by
  rw [built.keys_eq] at there
  rcases List.mem_append.mp there with member | space
  · exact member
  · exact absurd (built.kind?_space space) known

theorem has_typeId_iff (built : Built settings file c members spaces) (name : String) :
    c.entities.has (typeId name) = true ↔ typeId name ∈ members.keys := by
  rw [Ordered.has_eq_true_iff]
  constructor
  · intro there
    exact built.mem_of_kind? there (by rw [kind?_typeId]; decide)
  · intro there
    rw [built.keys_eq]
    exact List.mem_append_left _ there

theorem has_namespaceId_iff (built : Built settings file c members spaces) (name : String) :
    file.comments.has (namespaceId name) = true ↔ namespaceId name ∈ members.keys := by
  rw [Ordered.has_eq_true_iff, built.mem_members_iff, kind?_namespaceId]
  simp

end Built

end Catalog

end Apidoc
