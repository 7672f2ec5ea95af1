import Apidoc.Proofs.Catalog.Refusal
import Mathlib.Algebra.GroupWithZero.Nat

/-!
No member of a file is lost without a record. Every member becomes an entity or is told as passed
over; every entity that could be inside another is inside one, or has no dot in its name, or is told
as undeclared. What is said while a catalog is built is these notices and no others, so the numbers
of members, entities and notices add up.
-/
namespace Apidoc

def Entity.isDotted (e : Entity) : Bool :=
  e.fullName.any (·.toList.contains '.')

namespace Linking

variable {rows rest : List (Row String)} {implied : List String}
  {refusal : String → Option Stem.Fault} {events : List (Event String)}
  {home : Row String → Home String}

theorem notices_eventsFor (implied : List String) (row : Row String) (home : Home String) :
    (eventsFor implied row home).filterMap Catalog.noticeOf =
      if home = .unknown then [.undeclared row.id] else [] := by
  cases home with
  | implied id =>
    simp only [eventsFor]
    split <;> rfl
  | _ => rfl

/-- What is said in the course of a plan is which entities have a home that is unknown. -/
theorem notices_planFrom (known : ∀ row ∈ rest, homeOf rows row = .ok (home row))
    (planned : planFrom rows refusal implied rest = (events, none)) :
    events.filterMap Catalog.noticeOf =
      (rest.filter (home · = .unknown)).map fun row => .undeclared row.id := by
  induction rest generalizing implied events with
  | nil =>
    simp only [planFrom, Prod.mk.injEq] at planned
    rw [← planned.1]
    rfl
  | cons row rest ih =>
    have later : ∀ row ∈ rest, homeOf rows row = .ok (home row) := by
      intro r hr
      exact known r (List.mem_cons_of_mem row hr)
    obtain ⟨more, plannedLater, rfl, -⟩ := planFrom_cons (known row List.mem_cons_self) planned
    rw [List.filterMap_append, notices_eventsFor, ih later plannedLater, List.filter_cons]
    by_cases lost : home row = .unknown
    · simp [lost]
    · simp [lost]

end Linking

namespace Catalog

open Linking (Home)

variable {settings : Settings} {file : CommentFile} {c linked : Catalog} {notices : List Notice}
  {members spaces : Ordered String Entity}

section Members

def skipNotice? (id : String) : Option Notice :=
  if (MemberId.split id).letter = unresolvedLetter then some (.unresolved id)
  else if (MemberId.split id).letter ∉ ["N", "T", "M", "P", "F", "E"] then some (.unknownLetter id)
  else none

theorem skipNotice?_eq_none_iff {id : String} :
    skipNotice? id = none ↔ (MemberId.kind? id).isSome := by
  rw [MemberId.kind?_isSome_iff, skipNotice?]
  split
  · next unresolved => simp [unresolved, unresolvedLetter]
  · split
    · next unknown => simp [unknown]
    · next known => simpa using not_not.mp known

/-- Every member that has an outcome has an entity, or the notice that its id gives. -/
theorem passedNotice?_of_create {id : String} {comment : Comment} {outcome : Creation}
    (created : create settings id (some comment) = .ok outcome) :
    passedNotice? settings (id, comment) = skipNotice? id := by
  cases known : MemberId.kind? id with
  | some kind =>
    obtain ⟨e, rfl⟩ := Built.create_known known created
    rw [skipNotice?_eq_none_iff.mpr (by rw [known]; rfl), passedNotice?, created]
  | none =>
    have unlisted := mt (MemberId.kind?_isSome_iff id).mpr (by simp [known])
    unfold MemberId.kind? at known
    by_cases unresolved : (MemberId.split id).letter = unresolvedLetter
    · have allowed : settings.skipUnresolved = true := by
        by_contra strict
        rw [create_refused ⟨unresolved, by simpa using strict⟩] at created
        cases created
      simp [passedNotice?, create, skipNotice?, unresolved, allowed]
    · simp only [passedNotice?, create, skipNotice?, if_neg unresolved, known, if_pos unlisted]

theorem notices_createAll {members : List (String × Comment)} {made : List (String × Entity)}
    (created : createAll settings members = (notices, .ok made)) :
    notices = (Ordered.keys members).filterMap skipNotice? := by
  have outcomes := (createAll_ok created).2
  have whole := createAll_append outcomes []
  rw [List.append_nil, created] at whole
  have same : notices = members.filterMap (passedNotice? settings) := by
    simpa [createAll] using congrArg Prod.fst whole
  rw [same, Ordered.keys, List.filterMap_map]
  apply List.filterMap_congr
  intro member there
  obtain ⟨outcome, passed⟩ := outcomes member there
  exact passedNotice?_of_create passed

theorem length_eq_known_add_skipped (ids : List String) :
    ids.length = ids.countP (fun id => (MemberId.kind? id).isSome) +
      (ids.filterMap skipNotice?).countP (· matches .unresolved _) +
      (ids.filterMap skipNotice?).countP (· matches .unknownLetter _) := by
  induction ids with
  | nil => rfl
  | cons id ids ih =>
    rw [List.length_cons, List.countP_cons, List.filterMap_cons, ih]
    cases skipped : skipNotice? id with
    | none =>
      simp only [skipNotice?_eq_none_iff.mp skipped, if_true]
      omega
    | some notice =>
      have unknown : ¬(MemberId.kind? id).isSome := by
        rw [← skipNotice?_eq_none_iff, skipped]
        nofun
      simp only [unknown, List.countP_cons]
      unfold skipNotice? at skipped
      split at skipped
      · cases skipped
        simp
        omega
      · split at skipped
        · cases skipped
          simp
          omega
        · cases skipped

end Members

section Entities

theorem homeFor_eq_top_iff {ids : List String} {id : String} :
    homeFor ids id = .top ↔ MemberId.kind? id = some .space ∨
      MemberId.declaringName (MemberId.split id).fullName = none := by
  unfold homeFor
  split
  · next isSpace => simp [isSpace]
  · next noSpace =>
    split
    · next undotted => simp [undotted]
    · next name declared =>
      simp only [declared, noSpace, reduceCtorEq, or_self, iff_false]
      split_ifs <;> nofun

/-- Each of some entities is a namespace, or is in a holder, or has no dot, or is undeclared. -/
theorem count_homes (ids listed : List String) :
    listed.countP (fun id => MemberId.kind? id ≠ some .space) =
      (listed.filterMap fun id => (homeFor ids id).holder?.map (·, id)).length +
      listed.countP (fun id => MemberId.kind? id ≠ some .space ∧
        MemberId.declaringName (MemberId.split id).fullName = none) +
      (listed.filter (homeFor ids · = .unknown)).length := by
  induction listed with
  | nil => rfl
  | cons id rest ih =>
    have top := @homeFor_eq_top_iff ids id
    rw [List.countP_cons, List.countP_cons, List.filterMap_cons, List.filter_cons, ih]
    cases home : homeFor ids id with
    | top =>
      rw [home] at top
      rcases top.mp rfl with isSpace | undotted
      · simp [isSpace, Home.holder?]
      · simp [undotted, Home.holder?]
        omega
    | _ =>
      rw [home] at top
      have other := not_or.mp (mt top.mpr nofun)
      simp [other.1, other.2, Home.holder?]
      omega

/-- What is held by holders that include all there are is everything that has been placed. -/
theorem sum_length_held {holders : List String} (distinct : holders.Nodup)
    {placements : List (String × String)} (inside : ∀ p ∈ placements, p.1 ∈ holders) :
    (holders.map fun holder => (placements.filter (·.1 = holder)).length).sum =
      placements.length := by
  induction holders generalizing placements with
  | nil =>
    cases placements with
    | nil => rfl
    | cons p rest => exact absurd (inside p List.mem_cons_self) List.not_mem_nil
  | cons first others ih =>
    -- What the first holder has is set aside; the others hold the rest.
    obtain ⟨absent, distinct⟩ := List.nodup_cons.mp distinct
    have rest : ∀ p ∈ placements.filter (fun p => !decide (p.1 = first)), p.1 ∈ others := by
      intro p there
      obtain ⟨listed, apart⟩ := List.mem_filter.mp there
      rcases List.mem_cons.mp (inside p listed) with same | later
      · simp [same] at apart
      · exact later
    have unaffected : ∀ other ∈ others,
        (placements.filter (fun p => !decide (p.1 = first))).filter (·.1 = other) =
          placements.filter (·.1 = other) := by
      intro other there
      rw [List.filter_filter]
      apply List.filter_congr
      intro p _
      by_cases same : p.1 = other
      · have apart : other ≠ first := fun eq => absent (eq ▸ there)
        simp [same, apart]
      · simp [same]
    have later := ih distinct rest
    rw [List.map_congr_left fun other there => by rw [unaffected other there]] at later
    rw [List.map_cons, List.sum_cons, later]
    exact (List.length_eq_length_filter_add _).symm

namespace Built

theorem described_entry (built : Built settings file c members spaces) {entry : String × Entity}
    (there : entry ∈ c.entities) : Described entry.1 entry.2 :=
  built.described_all (Ordered.find?_of_mem built.distinct_all there)

/-- Entities can be counted by their ids, as these tell their kinds and names. -/
theorem countP_entities (built : Built settings file c members spaces) {p : Entity → Bool}
    {q : String → Bool} (same : ∀ id e, Described id e → p e = q id) :
    c.entities.countP (fun entry => p entry.2) = c.entities.keys.countP q := by
  rw [Ordered.keys, List.countP_map]
  apply List.countP_congr
  intro entry there
  rw [same entry.1 entry.2 (built.described_entry there)]
  rfl

theorem countP_keys (built : Built settings file c members spaces) {q : String → Bool}
    (none : ∀ id, MemberId.kind? id = some .space → q id = false) :
    c.entities.keys.countP q = members.keys.countP q := by
  have spaceless : spaces.keys.countP q = 0 := by
    rw [List.countP_eq_zero]
    intro id there
    simp [none id (built.kind?_space there)]
  rw [built.keys_eq, List.countP_append, spaceless, Nat.add_zero]

/-- The entities of members are as many as the members whose letter is known. -/
theorem countP_documented (built : Built settings file c members spaces)
    (distinct : file.comments.keys.Nodup) :
    c.entities.countP (fun entry => file.comments.has entry.1) =
      file.comments.keys.countP fun id => (MemberId.kind? id).isSome := by
  -- The entities of no member are the implied namespaces, which stand behind those of the members.
  have known : members.keys.length =
      file.comments.keys.countP fun id => (MemberId.kind? id).isSome := by
    rw [built.keys_members distinct, List.countP_eq_length_filter]
  have undocumented : c.entities.keys.countP (fun id => !file.comments.has id) =
      spaces.keys.length := by
    rw [← built.implied_eq, implied, List.countP_eq_length_filter]
  have documented : c.entities.countP (fun entry => file.comments.has entry.1) =
      c.entities.keys.countP (file.comments.has ·) := by
    rw [Ordered.keys, List.countP_map]
    rfl
  have total := List.length_eq_countP_add_countP (file.comments.has ·) (l := c.entities.keys)
  simp only [Bool.not_eq_true, Bool.decide_eq_false] at total
  rw [built.keys_eq, List.length_append, ← built.keys_eq, undocumented] at total
  rw [documented, ← known]
  omega

theorem sum_length_contents (built : Built settings file c members spaces) :
    (c.entities.keys.map fun id => (c.contents id).length).sum = c.placements.length := by
  simp only [contents, List.length_map]
  apply sum_length_held built.distinct_all
  intro p placed
  have there : p.2 ∈ c.contents p.1 :=
    List.mem_map.mpr ⟨p, List.mem_filter.mpr ⟨placed, by simp⟩, rfl⟩
  obtain ⟨-, outer, -, found, -⟩ := built.holder_cases there
  exact mem_keys_of_find? found

/-- An entity stays undeclared when it is no namespace, its name has a dot and nothing holds it. -/
theorem homeFor_eq_unknown_iff (built : Built settings file c members spaces) {id : String} :
    (id ∈ members.keys ∧ homeFor members.keys id = .unknown) ↔
      ∃ e, c.find? id = some e ∧ e.kind ≠ .space ∧ e.isDotted = true ∧ c.Unheld id := by
  constructor
  · rintro ⟨listed, lost⟩
    obtain ⟨e, found⟩ := built.find?_isSome_iff.mpr (Or.inl listed)
    have own := built.described_all found
    have notTop := mt homeFor_eq_top_iff.mpr (by rw [lost]; nofun)
    obtain ⟨noSpace, dotted⟩ := not_or.mp notTop
    rw [MemberId.declaringName_eq_none_iff, not_not] at dotted
    refine ⟨e, found, ?_, ?_, built.unheld (by rw [lost]; rfl)⟩
    · rintro isSpace
      exact noSpace (own.kind.trans (congrArg some isSpace))
    · simpa [Entity.isDotted, own.fullName] using dotted
  · rintro ⟨e, found, noSpace, dotted, unheld⟩
    have own := built.described_all found
    have other : MemberId.kind? id ≠ some .space := by
      rw [own.kind]
      exact fun same => noSpace (Option.some.inj same)
    have listed := built.mem_of_kind? (mem_keys_of_find? found) other
    have notTop : homeFor members.keys id ≠ .top := by
      intro top
      rcases homeFor_eq_top_iff.mp top with isSpace | undotted
      · exact other isSpace
      · rw [MemberId.declaringName_eq_none_iff] at undotted
        exact undotted (by simpa [Entity.isDotted, own.fullName] using dotted)
    have homeless : ∀ holder, (homeFor members.keys id).holder? ≠ some holder := by
      intro holder held
      apply unheld holder
      rw [built.contents_eq]
      exact List.mem_filter.mpr ⟨listed, by simp [held]⟩
    refine ⟨listed, ?_⟩
    cases home : homeFor members.keys id with
    | top => exact absurd home notTop
    | unknown => rfl
    | inside holder => exact absurd (by rw [home]; rfl) (homeless holder)
    | implied holder => exact absurd (by rw [home]; rfl) (homeless holder)

end Built

end Entities

theorem notices_link (described : ∀ entry ∈ c.entities, Described entry.1 entry.2)
    (run : link settings c = (notices, .ok linked)) :
    notices = (c.entities.keys.filter (homeFor c.entities.keys · = .unknown)).map
      fun id => .undeclared (some id) := by
  unfold link at run
  cases planned : Linking.plan (c.entities.map row) (refusal settings) with
  | mk events fault =>
    simp only [planned] at run
    cases fault with
    | some fault => cases run
    | none =>
      have told := Linking.notices_planFrom (homes_known described) planned
      rw [← (Prod.mk.inj run).1, told, List.filter_map, List.map_map, Ordered.keys,
        List.filter_map, List.map_map]
      apply List.map_congr_left
      intro entry there
      have own := described entry (List.mem_of_mem_filter there)
      simp only [Function.comp_apply, row, own.identity]

/-- Building tells which members are passed over, which entities are undeclared, and how many
entities there are. -/
theorem notices_build (run : build settings file = (notices, .ok c)) :
    ∃ members spaces, Built settings file c members spaces ∧
      notices = file.comments.keys.filterMap skipNotice? ++
        (members.keys.filter (homeFor members.keys · = .unknown)).map
          (fun id => .undeclared (some id)) ++
        [.built c.entities.length file.source] := by
  obtain ⟨members, spaces, built⟩ := build_ok run
  refine ⟨members, spaces, built, ?_⟩
  unfold build at run
  cases made : createAll settings file.comments with
  | mk first outcome =>
    cases outcome with
    | error fault => simp only [made] at run; cases run
    | ok list =>
      obtain ⟨rfl, -⟩ := createAll_ok made
      simp only [made] at run
      split at run
      · cases run
      · next more catalog linked =>
        simp only [Prod.mk.injEq, Except.ok.injEq] at run
        obtain ⟨rfl, rfl⟩ := run
        rw [notices_createAll made, notices_link (fun entry there => described_ofList there) linked,
          built.members_eq]

structure Accounted (file : CommentFile) (c : Catalog) (notices : List Notice) : Prop where
  told : ∃ undeclared : List String,
    notices = file.comments.keys.filterMap skipNotice? ++
      undeclared.map (fun id => .undeclared (some id)) ++
      [.built c.entities.length file.source] ∧
    undeclared.Nodup ∧ undeclared.Sublist c.entities.keys ∧
    ∀ id, id ∈ undeclared ↔
      ∃ e, c.find? id = some e ∧ e.kind ≠ .space ∧ e.isDotted = true ∧ c.Unheld id
  members : file.comments.length =
    c.entities.countP (fun entry => file.comments.has entry.1) +
      notices.countP (· matches .unresolved _) + notices.countP (· matches .unknownLetter _)
  entities : c.entities.countP (fun entry => entry.2.kind ≠ .space) =
    (c.entities.keys.map fun id => (c.contents id).length).sum +
      c.entities.countP (fun entry => entry.2.kind ≠ .space ∧ entry.2.isDotted = false) +
      notices.countP (· matches .undeclared _)

theorem count_told {ids undeclared : List String} {count : Nat} {source : String}
    (told : notices = ids.filterMap skipNotice? ++
      undeclared.map (fun id => .undeclared (some id)) ++ [.built count source]) :
    notices.countP (· matches .unresolved _) =
        (ids.filterMap skipNotice?).countP (· matches .unresolved _) ∧
      notices.countP (· matches .unknownLetter _) =
        (ids.filterMap skipNotice?).countP (· matches .unknownLetter _) ∧
      notices.countP (· matches .undeclared _) = undeclared.length := by
  have skipped : (ids.filterMap skipNotice?).countP (· matches .undeclared _) = 0 := by
    rw [List.countP_eq_zero]
    intro notice there
    obtain ⟨id, -, given⟩ := List.mem_filterMap.mp there
    unfold skipNotice? at given
    split_ifs at given
    · cases given
      nofun
    · cases given
      nofun
  subst told
  simp [List.countP_append, skipped, List.countP_map, Function.comp_def]

/-- No member is lost without a record: members and entities are as many as what becomes of them,
counted by the catalog and by the notices. -/
theorem build_accounts (distinct : file.comments.keys.Nodup)
    (run : build settings file = (notices, .ok c)) : Accounted file c notices := by
  obtain ⟨members, spaces, built, told⟩ := notices_build run
  obtain ⟨unresolved, unknownLetter, undeclared⟩ := count_told told
  constructor
  · refine ⟨_, told, built.distinct.filter _, ?_, ?_⟩
    · rw [built.keys_eq]
      exact List.filter_sublist.trans (List.sublist_append_left _ _)
    · intro id
      rw [List.mem_filter, decide_eq_true_eq]
      exact built.homeFor_eq_unknown_iff
  · have all := length_eq_known_add_skipped file.comments.keys
    rw [Ordered.keys, List.length_map] at all
    rw [built.countP_documented distinct, unresolved, unknownLetter]
    exact all
  · have nonSpaces := built.countP_entities (p := fun e => e.kind ≠ .space)
      (q := fun id => MemberId.kind? id ≠ some .space) (by
        intro id e own
        simp [own.kind])
    have undotted := built.countP_entities (p := fun e => e.kind ≠ .space ∧ e.isDotted = false)
      (q := fun id => MemberId.kind? id ≠ some .space ∧
        MemberId.declaringName (MemberId.split id).fullName = none) (by
        intro id e own
        simp [own.kind, own.fullName, Entity.isDotted, MemberId.declaringName_eq_none_iff])
    have homes := count_homes members.keys members.keys
    rw [nonSpaces, undotted, undeclared, built.sum_length_contents, built.placements,
      built.countP_keys fun id isSpace => by simp [isSpace],
      built.countP_keys fun id isSpace => by simp [isSpace]]
    exact homes

/-- Two members that are passed over, a field and a type inside types that are not documented, a
method without a type, and a type with a field. -/
def lossyFile : CommentFile :=
  ⟨none, ["!:Gone", "T:A.B", "F:A.B.x", "X:Odd", "F:A.C.y", "T:A.B.M.D", "M:Main", "N:A.N.S"].map
    (·, ⟨⟨.plain "member", [], .empty⟩⟩), CommentFile.textSource⟩

theorem build_accounts_sample :
    lossyFile.comments.keys.Nodup ∧ ∃ notices c, build {} lossyFile = (notices, .ok c) ∧
      Accounted lossyFile c notices ∧
      notices = [.unresolved "!:Gone", .unknownLetter "X:Odd", .undeclared (some "F:A.C.y"),
        .undeclared (some "T:A.B.M.D"), .built 7 CommentFile.textSource] := by
  have distinct : lossyFile.comments.keys.Nodup := by decide
  have told : (build {} lossyFile).1 = [.unresolved "!:Gone", .unknownLetter "X:Odd",
      .undeclared (some "F:A.C.y"), .undeclared (some "T:A.B.M.D"),
      .built 7 CommentFile.textSource] := by decide +kernel
  have fine : (build {} lossyFile).2.toOption.isSome = true := by decide +kernel
  refine ⟨distinct, ?_⟩
  cases run : build {} lossyFile with
  | mk notices outcome =>
    rw [run] at told fine
    cases outcome with
    | error fault => cases fine
    | ok c => exact ⟨notices, c, rfl, build_accounts distinct run, told⟩

end Catalog

end Apidoc
