import Apidoc.Proofs.Catalog.Reordering

/-!
What can go wrong while a catalog is built. Creation stops at the first member that has a fault, and
under accepted settings that is an id that the compiler could not resolve, where this is not allowed.
There is one exception. The check of the replacement looks at its length alone, so a lone backslash
passes it; but the replacement is read as a template, in which a backslash begins an escape, and then
no id has a stem.
-/
namespace Apidoc

namespace Stem

def loneBackslash : Fault :=
  .template ⟨"\\", .trailingBackslash, 0⟩

theorem read_backslash : Template.read "\\" = .error ⟨"\\", .trailingBackslash, 0⟩ := rfl

/-- The template is read before the id is looked at, so there is no id that it can serve for. -/
theorem render_backslash {options : Options} (backslash : options.replacement = "\\") {id : String}
    (nonempty : id ≠ "") : render options id = .error loneBackslash := by
  have some : id.isEmpty = false := by simpa using nonempty
  simp only [render, some, backslash, read_backslash]
  rfl

end Stem

namespace Catalog

variable {settings : Settings} {members : List (String × Comment)} {fault : Fault}

theorem createAll_cons_error {member : String × Comment}
    (failed : create settings member.1 (some member.2) = .error fault)
    (rest : List (String × Comment)) :
    (createAll settings (member :: rest)).2 = .error fault := by
  simp only [createAll, failed]

theorem createAll_cons_ok {member : String × Comment} {outcome : Creation}
    (created : create settings member.1 (some member.2) = .ok outcome)
    (rest : List (String × Comment)) :
    (createAll settings (member :: rest)).2 = .error fault ↔
      (createAll settings rest).2 = .error fault := by
  cases outcome with
  | skipped notice => simp only [createAll, created]
  | entity e => simp only [createAll, created, map_eq_error_iff]

/-- Creation fails with the fault of the first member that has one. -/
theorem createAll_error_iff :
    (createAll settings members).2 = .error fault ↔
      ∃ before member after, members = before ++ member :: after ∧
        (∀ m ∈ before, ∃ outcome, create settings m.1 (some m.2) = .ok outcome) ∧
        create settings member.1 (some member.2) = .error fault := by
  constructor
  · intro failed
    induction members with
    | nil => cases failed
    | cons first rest ih =>
      cases created : create settings first.1 (some first.2) with
      | error reason =>
        rw [createAll_cons_error created, Except.error.injEq] at failed
        subst failed
        exact ⟨[], first, rest, rfl, by simp, created⟩
      | ok outcome =>
        obtain ⟨before, member, after, rfl, passed, stopped⟩ :=
          ih ((createAll_cons_ok created rest).mp failed)
        refine ⟨first :: before, member, after, rfl, ?_, stopped⟩
        intro m there
        rcases List.mem_cons.mp there with rfl | there
        · exact ⟨outcome, created⟩
        · exact passed m there
  · rintro ⟨before, member, after, rfl, passed, stopped⟩
    induction before with
    | nil => exact createAll_cons_error stopped after
    | cons first before ih =>
      obtain ⟨outcome, created⟩ := passed first List.mem_cons_self
      apply (createAll_cons_ok created _).mpr
      exact ih fun m there => passed m (List.mem_cons_of_mem first there)

/-- A member that is passed over: its letter is none that is known, and the settings allow that. -/
def PassedOver (settings : Settings) (id : String) : Prop :=
  MemberId.kind? id = none ∧ ¬Refused settings id

section Backslash

variable {id : String}

theorem create_backslash (backslash : settings.replacement = "\\")
    (known : (MemberId.kind? id).isSome) (comment : Option Comment) :
    create settings id comment = .error (.stem Stem.loneBackslash) := by
  obtain ⟨kind, letter⟩ := Option.isSome_iff_exists.mp known
  have stemless : entityFor settings kind id comment = .error Stem.loneBackslash := by
    rw [entityFor, Stem.render_backslash backslash (ne_empty_of_kind? letter)]
    rfl
  rw [MemberId.kind?] at letter
  have resolved : (MemberId.split id).letter ≠ unresolvedLetter := by
    intro unresolved
    rw [unresolved] at letter
    cases letter
  simp only [create, if_neg resolved, letter, stemless]

theorem create_passedOver (passed : PassedOver settings id) (comment : Option Comment) :
    ∃ notice, create settings id comment = .ok (.skipped notice) := by
  obtain ⟨unknown, allowed⟩ := passed
  rw [MemberId.kind?] at unknown
  by_cases unresolved : (MemberId.split id).letter = unresolvedLetter
  · have skips : settings.skipUnresolved = true := by
      rw [← Bool.not_eq_false]
      exact fun strict => allowed ⟨unresolved, strict⟩
    simp only [create, if_pos unresolved, if_pos skips]
    exact ⟨_, rfl⟩
  · simp only [create, if_neg unresolved, unknown]
    exact ⟨_, rfl⟩

theorem passedOver_of_create (backslash : settings.replacement = "\\") {comment : Option Comment}
    {outcome : Creation} (created : create settings id comment = .ok outcome) :
    PassedOver settings id := by
  constructor
  · rw [← Option.not_isSome_iff_eq_none]
    intro known
    rw [create_backslash backslash known] at created
    cases created
  · intro refused
    rw [create_refused refused] at created
    cases created

/-- Which faults a member can have under a lone backslash. -/
theorem create_error_backslash (backslash : settings.replacement = "\\") {comment : Option Comment}
    (failed : create settings id comment = .error fault) :
    (fault = .unresolved id ∧ Refused settings id) ∨
      (fault = .stem Stem.loneBackslash ∧ (MemberId.kind? id).isSome) := by
  by_cases known : (MemberId.kind? id).isSome
  · rw [create_backslash backslash known] at failed
    cases failed
    exact .inr ⟨rfl, known⟩
  · rw [Option.not_isSome_iff_eq_none] at known
    by_cases refused : Refused settings id
    · rw [create_refused refused] at failed
      cases failed
      exact .inl ⟨rfl, refused⟩
    · obtain ⟨notice, created⟩ := create_passedOver ⟨known, refused⟩ comment
      rw [created] at failed
      cases failed

/-- A file all of whose members are passed over has nothing to link. -/
theorem build_error_backslash (backslash : settings.replacement = "\\") (file : CommentFile) :
    (build settings file).2 = .error fault ↔
      (createAll settings file.comments).2 = .error fault := by
  cases made : createAll settings file.comments with
  | mk notices outcome =>
    cases outcome with
    | error reason =>
      simp only [build, made]
      rw [Except.error.injEq, Except.error.injEq]
    | ok list =>
      obtain ⟨rfl, created⟩ := createAll_ok made
      have none : file.comments.filterMap (entityOf? settings) = [] := by
        rw [List.filterMap_eq_nil_iff]
        intro member listed
        obtain ⟨outcome, made⟩ := created member listed
        have passed := passedOver_of_create backslash made
        obtain ⟨notice, skipped⟩ := create_passedOver passed (some member.2)
        rw [entityOf?, skipped]
      simp only [build, made, none]
      constructor
      · intro failed
        cases failed
      · intro failed
        cases failed

end Backslash

structure Serves (settings : Settings) : Prop where
  stems : ∀ id, id ≠ "" →
    ((∃ stem, Stem.render settings.stemOptions id = .ok stem) ↔ settings.replacement ≠ "\\")
  stemless : ∀ id, id ≠ "" → settings.replacement = "\\" →
    Stem.render settings.stemOptions id = .error Stem.loneBackslash
  faults : ∀ file fault, (build settings file).2 = .error fault →
    (∃ id ∈ file.comments.keys, fault = .unresolved id) ∨
      (settings.replacement = "\\" ∧ fault = .stem Stem.loneBackslash)
  broken : ∀ file, (build settings file).2 = .error (.stem Stem.loneBackslash) ↔
    settings.replacement = "\\" ∧
      ∃ before member after, file.comments = before ++ member :: after ∧
        (∀ m ∈ before, PassedOver settings m.1) ∧ (MemberId.kind? member.1).isSome

theorem serves_plain (plain : '\\' ∉ settings.replacement.toList) : Serves settings := by
  have other : settings.replacement ≠ "\\" := by
    intro backslash
    rw [backslash] at plain
    exact plain (by decide)
  have faults : ∀ file fault, (build settings file).2 = .error fault →
      ∃ id ∈ file.comments.keys, fault = .unresolved id := by
    intro file fault failed
    cases made : createAll settings file.comments with
    | mk notices outcome =>
      cases outcome with
      | error reason =>
        simp only [build, made, Except.error.injEq] at failed
        obtain ⟨member, listed, stopped⟩ := createAll_error made
        obtain ⟨rfl, -⟩ := create_error plain stopped
        exact ⟨member.1, Ordered.mem_keys_of_mem listed, failed.symm⟩
      | ok list =>
        rcases build_plain plain file with ⟨⟨id, there, refused⟩, -⟩ | ⟨-, _, c, built⟩
        · obtain ⟨comment, listed⟩ := Ordered.exists_of_mem_keys there
          obtain ⟨outcome, created⟩ := (createAll_ok made).2 _ listed
          rw [create_refused refused] at created
          cases created
        · rw [built] at failed
          cases failed
  refine ⟨?_, ?_, ?_, ?_⟩
  · intro id nonempty
    exact iff_of_true (Stem.render_plain settings.stemOptions plain nonempty) other
  · intro id _ backslash
    exact absurd backslash other
  · intro file fault failed
    exact .inl (faults file fault failed)
  · intro file
    constructor
    · intro failed
      obtain ⟨id, -, impossible⟩ := faults file _ failed
      cases impossible
    · rintro ⟨backslash, -⟩
      exact absurd backslash other

theorem serves_backslash (backslash : settings.replacement = "\\") : Serves settings := by
  refine ⟨?_, ?_, ?_, ?_⟩
  · intro id nonempty
    have failed : Stem.render settings.stemOptions id = .error Stem.loneBackslash :=
      Stem.render_backslash backslash nonempty
    apply iff_of_false
    · rintro ⟨stem, rendered⟩
      rw [failed] at rendered
      cases rendered
    · exact fun other => other backslash
  · intro id nonempty _
    exact Stem.render_backslash backslash nonempty
  · intro file fault failed
    obtain ⟨before, member, after, same, -, stopped⟩ :=
      createAll_error_iff.mp ((build_error_backslash backslash file).mp failed)
    rcases create_error_backslash backslash stopped with ⟨rfl, -⟩ | ⟨rfl, -⟩
    · have listed : member ∈ file.comments := by simp [same]
      exact .inl ⟨member.1, Ordered.mem_keys_of_mem listed, rfl⟩
    · exact .inr ⟨backslash, rfl⟩
  · intro file
    rw [build_error_backslash backslash, createAll_error_iff]
    constructor
    · rintro ⟨before, member, after, same, passed, stopped⟩
      refine ⟨backslash, before, member, after, same, ?_, ?_⟩
      · intro m there
        obtain ⟨outcome, created⟩ := passed m there
        exact passedOver_of_create backslash created
      · rcases create_error_backslash backslash stopped with ⟨impossible, -⟩ | ⟨-, known⟩
        · cases impossible
        · exact known
    · rintro ⟨-, before, member, after, same, passed, known⟩
      refine ⟨before, member, after, same, ?_, create_backslash backslash known _⟩
      intro m there
      obtain ⟨notice, created⟩ := create_passedOver (passed m there) (some m.2)
      exact ⟨_, created⟩

/-- Accepted settings serve for every id and every file, except that under a lone backslash no id
has a stem and no file with a member of a known kind has a catalog. -/
theorem accepted_serves {values : Settings.Values} {settings : Settings}
    (accepted : Settings.ofValues values = .ok settings) : Serves settings := by
  by_cases backslash : settings.replacement = "\\"
  · exact serves_backslash backslash
  · exact serves_plain (Settings.replacement_plain accepted backslash)

theorem accepted_serves_hyphen :
    Settings.ofValues [("normalized_id_replacement", .text "-")] = .ok { replacement := "-" } ∧
      Serves { replacement := "-" } ∧
      (Stem.render (Settings.stemOptions { replacement := "-" }) "T:A").toOption = some "T-A" := by
  have accepted : Settings.ofValues [("normalized_id_replacement", .text "-")] =
      .ok { replacement := "-" } := by rfl
  exact ⟨accepted, accepted_serves accepted, by decide +kernel⟩

/-- A lone backslash passes the checks of settings. The file of one documented type has no catalog
then, and what it fails with is not the problem of an unresolved id. -/
theorem backslash_accepted_and_stemless :
    Settings.ofValues [("normalized_id_replacement", .text "\\")] = .ok { replacement := "\\" } ∧
      Stem.render (Settings.stemOptions { replacement := "\\" }) "T:A" =
        .error (.template ⟨"\\", .trailingBackslash, 0⟩) ∧
      (build { replacement := "\\" }
          ⟨none, [("T:A", ⟨⟨.plain "member", [], .empty⟩⟩)], CommentFile.textSource⟩).2 =
        .error (.stem (.template ⟨"\\", .trailingBackslash, 0⟩)) :=
  ⟨rfl, rfl, rfl⟩

end Catalog

end Apidoc
