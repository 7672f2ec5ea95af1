import Apidoc.Proofs.Catalog.Faults
import Apidoc.Proofs.Catalog.Identity

/-!
When building a catalog fails. With a replacement that makes stems it fails at the first member that
the compiler could not resolve, if that is not allowed, and up to there nothing is said but which
members have unknown letters. Linking never fails, however ids are spelled: the entities keep the
labels that their ids give them all through it, so what stands under the id of a namespace is one.
-/
namespace Apidoc.Catalog

open Linking (Event namespaceId)

variable {settings : Settings} {file : CommentFile} {c : Catalog} {id : String}

section Creation

def passedNotice? (settings : Settings) (member : String × Comment) : Option Notice :=
  match create settings member.1 (some member.2) with
  | .ok (.skipped notice) => some notice
  | _ => none

/-- Members that have an outcome are dealt with before the others, and independently of them. -/
theorem createAll_append {before : List (String × Comment)}
    (passed : ∀ m ∈ before, ∃ outcome, create settings m.1 (some m.2) = .ok outcome)
    (rest : List (String × Comment)) :
    createAll settings (before ++ rest) =
      (before.filterMap (passedNotice? settings) ++ (createAll settings rest).1,
        (createAll settings rest).2.map (before.filterMap (entityOf? settings) ++ ·)) := by
  induction before with
  | nil =>
    cases made : createAll settings rest with
    | mk notices outcome => cases outcome <;> simp [made, Except.map]
  | cons member before ih =>
    have later := ih fun m there => passed m (List.mem_cons_of_mem member there)
    obtain ⟨outcome, created⟩ := passed member List.mem_cons_self
    rw [List.cons_append, createAll, created, later]
    cases outcome with
    | skipped notice => simp [passedNotice?, entityOf?, created]
    | entity e =>
      simp only [List.filterMap_cons, passedNotice?, entityOf?, created]
      cases (createAll settings rest).2 <;> simp [Except.map]

theorem refused_iff :
    Refused settings id ↔ settings.skipUnresolved = false ∧ ∃ rest, id = "!:" ++ rest := by
  have letter : (MemberId.split id).letter = unresolvedLetter ↔ ∃ rest, id = "!:" ++ rest :=
    MemberId.letter_eq_iff (by decide) (by decide) id
  unfold Refused
  rw [letter, and_comm]

theorem passedNotice?_eq (strict : settings.skipUnresolved = false)
    (allowed : ¬Refused settings id) (comment : Comment) :
    passedNotice? settings (id, comment) =
      if (MemberId.kind? id).isSome then none else some (.unknownLetter id) := by
  have resolved : (MemberId.split id).letter ≠ unresolvedLetter := by
    intro unresolved
    exact allowed ⟨unresolved, strict⟩
  cases known : MemberId.kind? id with
  | none =>
    unfold MemberId.kind? at known
    have created : create settings id (some comment) = .ok (.skipped (.unknownLetter id)) := by
      simp only [create, if_neg resolved, known]
    simp [passedNotice?, created]
  | some kind =>
    unfold passedNotice?
    split
    · next notice created =>
      obtain ⟨e, impossible⟩ := Built.create_known known created
      cases impossible
    · rfl

def unknownLetters (members : List (String × Comment)) : List Notice :=
  ((Ordered.keys members).filter fun id =>
    (MemberId.split id).letter ∉ ["N", "T", "M", "P", "F", "E"]).map .unknownLetter

theorem passedNotices_eq (strict : settings.skipUnresolved = false)
    {members : List (String × Comment)} (allowed : ∀ m ∈ members, ¬Refused settings m.1) :
    members.filterMap (passedNotice? settings) = unknownLetters members := by
  induction members with
  | nil => rfl
  | cons member rest ih =>
    have later := ih fun m there => allowed m (List.mem_cons_of_mem member there)
    have first := passedNotice?_eq strict (allowed member List.mem_cons_self) member.2
    rw [List.filterMap_cons, first, later]
    simp only [unknownLetters, Ordered.keys, List.map_cons, List.filter_cons]
    by_cases known : (MemberId.kind? member.1).isSome
    · have listed := (MemberId.kind?_isSome_iff member.1).mp known
      simp [known, listed]
    · have listed := mt (MemberId.kind?_isSome_iff member.1).mpr known
      simp [known, listed]

theorem exists_create (plain : '\\' ∉ settings.replacement.toList) (allowed : ¬Refused settings id)
    (comment : Option Comment) : ∃ outcome, create settings id comment = .ok outcome := by
  cases created : create settings id comment with
  | ok outcome => exact ⟨outcome, rfl⟩
  | error fault => exact absurd (create_error plain created).2 allowed

theorem build_at_refused (plain : '\\' ∉ settings.replacement.toList)
    {before after : List (String × Comment)} {member : String × Comment}
    (members : file.comments = before ++ member :: after) (refused : Refused settings member.1)
    (earlier : ∀ m ∈ before, ¬Refused settings m.1) :
    build settings file = (unknownLetters before, .error (.unresolved member.1)) := by
  have passed : ∀ m ∈ before, ∃ outcome, create settings m.1 (some m.2) = .ok outcome := by
    intro m there
    exact exists_create plain (earlier m there) _
  have stopped : createAll settings (member :: after) = ([], .error (.unresolved member.1)) := by
    rw [createAll, create_refused refused]
  have made := createAll_append passed (member :: after)
  rw [stopped, List.append_nil, passedNotices_eq refused.2 earlier] at made
  unfold build
  rw [members, made]
  rfl

end Creation

section Linking

def Lawful (c : Catalog) : Prop :=
  ∀ entry ∈ c.entities, Described entry.1 entry.2

def events (settings : Settings) (c : Catalog) : List (Event String) :=
  (Linking.plan (c.entities.map row) (refusal settings)).1

theorem Lawful.carryOut (lawful : Lawful c) {event : Event String}
    (space : ∀ id, event = .implied id → MemberId.kind? id = some .space) :
    Lawful (carryOut settings c event) := by
  cases event with
  | attached holder member => exact lawful
  | undeclared id => exact lawful
  | implied id =>
    simp only [Catalog.carryOut]
    split
    · next e made =>
      obtain ⟨sameId, sameKind, sameName⟩ := entityFor_ok made
      intro entry there
      cases Ordered.mem_insert there with
      | inl old => exact lawful entry old
      | inr new =>
        rw [new]
        exact ⟨sameId, by rw [space id rfl, sameKind], sameName⟩
    · exact lawful

/-- The labels are right after any number of steps. -/
theorem Lawful.foldl {steps : List (Event String)} (lawful : Lawful c)
    (space : ∀ id, Event.implied id ∈ steps → MemberId.kind? id = some .space) :
    Lawful (steps.foldl (Catalog.carryOut settings) c) := by
  induction steps generalizing c with
  | nil => exact lawful
  | cons step rest ih =>
    apply ih
    · apply lawful.carryOut
      intro id same
      exact space id (by rw [same]; exact List.mem_cons_self)
    · intro id there
      exact space id (List.mem_cons_of_mem step there)

theorem Lawful.kind_of_namespaceId (lawful : Lawful c) {name : String} {e : Entity}
    (found : c.find? (namespaceId name) = some e) : e.kind = .space :=
  kind_of_find? lawful (kind?_namespaceId name) found

/-- Linking implies nothing but namespaces. -/
theorem exists_namespaceId_of_event (plain : '\\' ∉ settings.replacement.toList)
    (lawful : Lawful c) (there : Event.implied id ∈ events settings c) :
    ∃ name, id = namespaceId name := by
  obtain ⟨notices, linked, run⟩ := link_plain plain lawful
  have known := homes_known lawful
  cases planned : Linking.plan (c.entities.map row) (refusal settings) with
  | mk steps fault =>
    cases fault with
    | some fault =>
      simp only [link, planned] at run
      cases run
    | none =>
      have additions := (Linking.added_planFrom known planned).1
      have listed : id ∈ Linking.added steps := by
        unfold events at there
        rw [planned] at there
        exact List.mem_filterMap.mpr ⟨_, there, rfl⟩
      rw [additions, List.mem_eraseDups, List.removeAll_nil] at listed
      obtain ⟨r, -, needed⟩ := List.mem_filterMap.mp listed
      obtain ⟨-, -, name, same, -⟩ := needed_cases needed
      exact ⟨name, same⟩

theorem create_of_kind? {kind : Kind} (known : MemberId.kind? id = some kind)
    {comment : Option Comment} {e : Entity} (made : entityFor settings kind id comment = .ok e) :
    create settings id comment = .ok (.entity e) := by
  unfold MemberId.kind? at known
  have resolved : (MemberId.split id).letter ≠ unresolvedLetter := by
    intro unresolved
    rw [unresolved] at known
    cases known
  simp only [create, if_neg resolved, known, made]

structure Links (settings : Settings) (c : Catalog) : Prop where
  succeeds : ∃ notices linked, link settings c = (notices, .ok linked)
  spaces : ∀ done rest, events settings c = done ++ rest → ∀ name e,
    (done.foldl (carryOut settings) c).find? (namespaceId name) = some e → e.kind = .space
  implied : ∀ id, Event.implied id ∈ events settings c →
    ∃ e, create settings id none = .ok (.entity e) ∧ e.kind = .space

theorem links_of_lawful (plain : '\\' ∉ settings.replacement.toList) (lawful : Lawful c) :
    Links settings c where
  succeeds := link_plain plain lawful
  spaces := by
    intro done rest same name e found
    have space : ∀ id, Event.implied id ∈ done → MemberId.kind? id = some .space := by
      intro id there
      have listed : Event.implied id ∈ events settings c := by
        rw [same]
        exact List.mem_append_left rest there
      obtain ⟨other, rfl⟩ := exists_namespaceId_of_event plain lawful listed
      exact kind?_namespaceId other
    exact (lawful.foldl space).kind_of_namespaceId found
  implied := by
    intro id there
    obtain ⟨name, rfl⟩ := exists_namespaceId_of_event plain lawful there
    have known := kind?_namespaceId name
    obtain ⟨e, made⟩ := entityFor_plain plain (ne_empty_of_kind? known) .space none
    exact ⟨e, create_of_kind? known made, (entityFor_ok made).2.1⟩

end Linking

structure Verdict (settings : Settings) (file : CommentFile) : Prop where
  fails_iff : (∃ fault, (build settings file).2 = .error fault) ↔
    settings.skipUnresolved = false ∧ ∃ id ∈ file.comments.keys, ∃ rest, id = "!:" ++ rest
  first : ∀ before id comment after, file.comments = before ++ (id, comment) :: after →
    settings.skipUnresolved = false → (∃ rest, id = "!:" ++ rest) →
    (∀ m ∈ before, ¬∃ rest, m.1 = "!:" ++ rest) →
    build settings file = (unknownLetters before, .error (.unresolved id)) ∧
      (Problem.unresolved id).details = [("id", id)]
  returns : ¬(settings.skipUnresolved = false ∧
      ∃ id ∈ file.comments.keys, ∃ rest, id = "!:" ++ rest) →
    ∃ notices c, build settings file = (notices, .ok c)
  links : ∀ notices made, createAll settings file.comments = (notices, .ok made) →
    Links settings ⟨file.assembly, Ordered.ofList made, []⟩

/-- Building fails at the first member that the compiler could not resolve, where this is not
allowed, and for no other reason. -/
theorem build_fails_at_unresolved {values : Settings.Values} {settings : Settings}
    (accepted : Settings.ofValues values = .ok settings) (other : settings.replacement ≠ "\\")
    (file : CommentFile) : Verdict settings file := by
  have plain := Settings.replacement_plain accepted other
  have outcome := build_plain plain file
  simp only [refused_iff] at outcome
  constructor
  · rcases outcome with ⟨⟨id, there, strict, unresolved⟩, notices, culprit, failed⟩ |
      ⟨allowed, notices, c, built⟩
    · rw [failed]
      exact ⟨fun _ => ⟨strict, id, there, unresolved⟩, fun _ => ⟨_, rfl⟩⟩
    · rw [built]
      constructor
      · intro failed
        obtain ⟨fault, impossible⟩ := failed
        cases impossible
      · intro refused
        obtain ⟨strict, id, there, unresolved⟩ := refused
        exact absurd ⟨strict, unresolved⟩ (allowed id there)
  · intro before id comment after members strict unresolved earlier
    refine ⟨build_at_refused plain members (refused_iff.mpr ⟨strict, unresolved⟩) ?_, rfl⟩
    intro m there refused
    exact earlier m there (refused_iff.mp refused).2
  · intro fine
    rcases outcome with ⟨⟨id, there, strict, unresolved⟩, -⟩ | ⟨-, built⟩
    · exact absurd ⟨strict, id, there, unresolved⟩ fine
    · exact built
  · intro notices made created
    obtain ⟨rfl, -⟩ := createAll_ok created
    apply links_of_lawful plain
    intro entry there
    exact described_ofList there

def brokenFile : CommentFile :=
  ⟨none, ["X:Q", "T:A.B", "A", "!:Gone", "Y:Z", "!:Later"].map
    (·, ⟨⟨.plain "member", [], .empty⟩⟩), CommentFile.textSource⟩

theorem build_fails_at_unresolved_sample :
    Settings.ofValues [("skip_unresolved", .flag false)] = .ok { skipUnresolved := false } ∧
      Verdict { skipUnresolved := false } brokenFile ∧
      build { skipUnresolved := false } brokenFile =
        ([.unknownLetter "X:Q", .unknownLetter "A"], .error (.unresolved "!:Gone")) := by
  have accepted : Settings.ofValues [("skip_unresolved", .flag false)] =
      .ok { skipUnresolved := false } := by rfl
  have verdict := build_fails_at_unresolved accepted (by decide) brokenFile
  have first := verdict.first (brokenFile.comments.take 3) "!:Gone" ⟨⟨.plain "member", [], .empty⟩⟩
    (brokenFile.comments.drop 4) rfl rfl ⟨"Gone", by decide⟩
  refine ⟨accepted, verdict, (first ?_).1⟩
  intro m there unresolved
  obtain ⟨rest, same⟩ := unresolved
  have chars := congrArg (·.toList.head?) same
  simp [brokenFile] at there
  rcases there with rfl | rfl | rfl <;> simp at chars

end Apidoc.Catalog
