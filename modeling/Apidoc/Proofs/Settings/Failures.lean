import Apidoc.Proofs.Settings.Precedence

/-!
How loading settings fails. Most failures are problems of configuration, which are told as such. The
others break through: they come from bytes and numbers that the readers of files do not expect, and
`Escaping` lists them all.
-/
namespace Apidoc.Settings

def LoadFault.IsRefusal (fault : LoadFault) : Prop :=
  ∃ p : Problem, fault = .problem p ∧ p.isConfiguration = true

inductive Unreadable (path : Path) : Place → LoadFault → Prop
  | hidden {why : PathFault} (blind : why.isBlind = true) :
      Unreadable path (.absent why) (.path why path)
  | undecodable {bytes : List UInt8} {fault : Encoding.Fault}
      (notText : Encoding.Utf8.decode bytes = .error fault) :
      Unreadable path (.file bytes) (.undecodable fault)
  | longInteger {bytes : List UInt8} {text : List Char} {digits : Nat}
      (decoded : Encoding.Utf8.decode bytes = .ok text)
      (long : Toml.parse text = .error (.longInteger digits)) :
      Unreadable path (.file bytes) (.longInteger digits)

/-- A failure that is not told as a problem of configuration, and what it comes from: a home
directory given by a user's name, the first file that cannot be read, or a value that is refused and
cannot be written in the message. -/
inductive Escaping (around : Surroundings) (named : Option Path) (overrides : Values) :
    LoadFault → Prop
  | noHome {name : String} (given : around.environment homeVariable = some name)
      (user : name.toList.head? = some '~') : Escaping around named overrides .noHome
  | file {directory path : Path} {before after : List Path} {fault : LoadFault}
      (home : around.home = .ok directory) (order : paths around named = before ++ path :: after)
      (earlier : ∀ p ∈ before, ∃ values, readFile p (around.find p) = .ok values)
      (unreadable : Unreadable path (around.find path) fault) :
      Escaping around named overrides fault
  | untellable {sources : Sources} {fault : Fault} (read : sources.Read around named)
      (known : foreignKeys (sources.merged overrides) = [])
      (refused : ofValues (sources.merged overrides) = .error fault)
      (long : (((sources.merged overrides).find? fault.key).getD .none).isTellable = false) :
      Escaping around named overrides .untellable

variable {around : Surroundings} {named : Option Path} {overrides : Values} {fault : LoadFault}

section Reading

variable {path : Path} {place : Place}

theorem isRefusal_invalidFile (path : Path) (reason : String) :
    (invalidFile path reason).IsRefusal := ⟨_, rfl, rfl⟩

theorem Unreadable.ne_problem (unreadable : Unreadable path place fault) (p : Problem) :
    fault ≠ .problem p := by
  rintro rfl
  cases unreadable

theorem not_isRefusal (other : ∀ p, fault ≠ .problem p) : ¬fault.IsRefusal :=
  fun ⟨p, same, _⟩ => other p same

theorem unreadable_iff :
    Unreadable path place fault ↔ readFile path place = .error fault ∧ ¬fault.IsRefusal := by
  constructor
  · intro unreadable
    refine ⟨?_, not_isRefusal unreadable.ne_problem⟩
    cases unreadable with
    | hidden blind => simp only [readFile, blind, if_true]
    | undecodable notText => simp only [readFile, notText]
    | longInteger decoded long => simp only [readFile, decoded, long]
  · rintro ⟨failed, escaping⟩
    unfold readFile at failed
    split at failed
    · split at failed
      · next blind =>
        cases failed
        exact .hidden blind
      · cases failed
    · cases failed
      exact absurd (isRefusal_invalidFile _ _) escaping
    · cases failed
      exact absurd (isRefusal_invalidFile _ _) escaping
    · split at failed
      · next notText =>
        cases failed
        exact .undecodable notText
      · next decoded =>
        split at failed
        · cases failed
        · cases failed
          exact absurd (isRefusal_invalidFile _ _) escaping
        · next long =>
          cases failed
          exact .longInteger decoded long

/-- A file that is named is read like the others, but for its being there. -/
theorem readNamed_error_iff :
    (readNamed around named = .error fault ∧ ¬fault.IsRefusal) ↔
      ∃ path, named = some path ∧ Unreadable path (around.find path) fault := by
  cases named with
  | none => simp [readNamed]
  | some path =>
    simp only [Option.some.injEq, exists_eq_left', readNamed]
    split
    · next absent =>
      rw [absent, unreadable_iff, readFile]
      split
      · rfl
      · constructor
        · rintro ⟨failed, escaping⟩
          cases failed
          exact absurd ⟨_, rfl, rfl⟩ escaping
        · rintro ⟨failed, -⟩
          cases failed
    · exact unreadable_iff.symm

theorem isRefusal_of_readVariables {fields : List Field}
    (failed : readVariables around fields = .error fault) : fault.IsRefusal := by
  induction fields with
  | nil => cases failed
  | cons field rest ih =>
    rw [readVariables] at failed
    split at failed
    · exact ih failed
    · split at failed
      · cases failed
        exact ⟨_, rfl, rfl⟩
      · exact ih (map_eq_error_iff.mp failed)

/-- Slashes at the end of a name do not hide that it begins with a tilde. -/
theorem head?_trimmed (name : List Char) :
    (name.reverse.dropWhile (· == '/')).reverse.head? = some '~' ↔ name.head? = some '~' := by
  cases name with
  | nil => rfl
  | cons c rest =>
    rw [List.reverse_cons, List.dropWhile_append]
    split
    · by_cases slash : c = '/' <;> simp [slash]
    · simp

theorem home_error_iff :
    around.home = .error fault ↔
      fault = .noHome ∧
        ∃ name, around.environment homeVariable = some name ∧ name.toList.head? = some '~' := by
  unfold Surroundings.home
  cases around.environment homeVariable with
  | none => simp
  | some name =>
    simp only [Option.some.injEq, exists_eq_left']
    rw [← head?_trimmed]
    split
    · next trimmed => simp [trimmed]
    · next trimmed => simp [trimmed, eq_comm]
    · next apart =>
      refine iff_of_false nofun ?_
      rintro ⟨-, tilde⟩
      obtain ⟨rest, user⟩ := List.head?_eq_some_iff.mp tilde
      exact apart rest user

end Reading

theorem paths_of_home (named : Option Path) {directory : Path}
    (home : around.home = .ok directory) :
    paths around named =
      directory.under homeFile :: around.current.under projectFile :: named.toList := by
  rw [paths, home]
  rfl

/-- The first file that cannot be read decides how loading fails. -/
theorem gather_error_of_unreadable {directory path : Path} {before after : List Path}
    (home : around.home = .ok directory) (order : paths around named = before ++ path :: after)
    (earlier : ∀ p ∈ before, ∃ values, readFile p (around.find p) = .ok values)
    (unreadable : Unreadable path (around.find path) fault) :
    gather around named overrides = .error fault := by
  rw [paths_of_home named home] at order
  simp only [gather, bind_eq_error_iff]
  refine .inr ⟨directory, home, ?_⟩
  -- The file is that of the home directory, that of the project, or the one that is named.
  rcases before with _ | ⟨first, _ | ⟨second, _ | ⟨third, more⟩⟩⟩
  · cases order
    exact .inl (unreadable_iff.mp unreadable).1
  · cases order
    obtain ⟨fromHome, readHome⟩ := earlier _ List.mem_cons_self
    exact .inr ⟨fromHome, readHome, .inl (unreadable_iff.mp unreadable).1⟩
  · simp only [List.cons_append, List.nil_append, List.cons.injEq] at order
    obtain ⟨rfl, rfl, last⟩ := order
    obtain ⟨fromHome, readHome⟩ := earlier _ List.mem_cons_self
    obtain ⟨fromProject, readProject⟩ := earlier _ (List.mem_cons_of_mem _ List.mem_cons_self)
    have given : named = some path := by
      cases named with
      | none => cases last
      | some other => cases last; rfl
    have failed := (readNamed_error_iff.mpr ⟨path, given, unreadable⟩).1
    exact .inr ⟨fromHome, readHome, .inr ⟨fromProject, readProject, .inl failed⟩⟩
  · cases named <;> simp at order

theorem escaping_of_gather (failed : gather around named overrides = .error fault)
    (escaping : ¬fault.IsRefusal) : Escaping around named overrides fault := by
  simp only [gather, bind_eq_error_iff] at failed
  rcases failed with noHome | ⟨directory, home, failed | ⟨fromHome, readHome, failed |
    ⟨fromProject, readProject, failed | ⟨fromNamed, -, failed | ⟨fromVariables, -, failed⟩⟩⟩⟩⟩
  · obtain ⟨rfl, name, given, user⟩ := home_error_iff.mp noHome
    exact .noHome given user
  · have order : paths around named = [] ++ directory.under homeFile :: _ :=
      paths_of_home named home
    exact .file home order (by simp) (unreadable_iff.mpr ⟨failed, escaping⟩)
  · have order : paths around named =
        [directory.under homeFile] ++ around.current.under projectFile :: _ :=
      paths_of_home named home
    refine .file home order ?_ (unreadable_iff.mpr ⟨failed, escaping⟩)
    intro p there
    cases List.mem_singleton.mp there
    exact ⟨fromHome, readHome⟩
  · obtain ⟨path, rfl, unreadable⟩ := readNamed_error_iff.mp ⟨failed, escaping⟩
    have order : paths around (some path) =
        [directory.under homeFile, around.current.under projectFile] ++ path :: [] :=
      paths_of_home (some path) home
    refine .file home order ?_ unreadable
    intro p there
    rcases List.mem_pair.mp there with rfl | rfl
    · exact ⟨fromHome, readHome⟩
    · exact ⟨fromProject, readProject⟩
  · exact absurd (isRefusal_of_readVariables failed) escaping
  · cases failed

theorem escaping_of_check {sources : Sources} (read : sources.Read around named)
    (failed : check (sources.merged overrides) = .error fault) (escaping : ¬fault.IsRefusal) :
    Escaping around named overrides fault := by
  rw [check_eq] at failed
  split at failed
  · next known =>
    obtain ⟨cause, refused, same⟩ := mapError_eq_error_iff.mp failed
    unfold refuse at same
    split at same
    · exact absurd ⟨_, same.symm, rfl⟩ escaping
    · next long =>
      cases same
      exact .untellable read known refused ((Bool.not_eq_true _).mp long)
  · cases failed
    exact absurd ⟨_, rfl, rfl⟩ escaping

theorem Escaping.ne_problem (escaping : Escaping around named overrides fault) (p : Problem) :
    fault ≠ .problem p := by
  cases escaping with
  | noHome _ _ => nofun
  | file _ _ _ unreadable => exact unreadable.ne_problem p
  | untellable _ _ _ _ => nofun

/-- The failures that are not told as problems of configuration are exactly those listed. -/
theorem escaping_iff :
    Escaping around named overrides fault ↔
      load around named overrides = .error fault ∧ ¬fault.IsRefusal := by
  constructor
  · intro escaping
    refine ⟨?_, not_isRefusal escaping.ne_problem⟩
    cases escaping with
    | noHome given user =>
      have failed := home_error_iff.mpr ⟨rfl, _, given, user⟩
      rw [load, gather, failed]
      rfl
    | file home order earlier unreadable =>
      rw [load, gather_error_of_unreadable home order earlier unreadable]
      rfl
    | untellable read known refused long =>
      rw [read.load_eq, check_eq, if_pos known, refused]
      simp only [Except.mapError, refuse, long, Bool.false_eq_true, if_false]
  · rintro ⟨failed, escaping⟩
    rcases bind_eq_error_iff.mp failed with failed | ⟨values, gathered, failed⟩
    · exact escaping_of_gather failed escaping
    · obtain ⟨sources, read⟩ := gather_read gathered
      have merged := read.gather overrides
      rw [gathered] at merged
      cases merged
      exact escaping_of_check read failed escaping

theorem allowed_of_load {s : Settings} (loaded : load around named overrides = .ok s)
    (field : Field) : Allowed field (s.get field) := by
  obtain ⟨values, -, accepted⟩ := bind_eq_ok_iff.mp loaded
  rw [check_eq] at accepted
  split at accepted
  · exact (ofValues_ok (mapError_eq_ok_iff.mp accepted) field).2
  · cases accepted

end Apidoc.Settings
