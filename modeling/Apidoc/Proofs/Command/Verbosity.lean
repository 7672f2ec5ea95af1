import Apidoc.Proofs.Command.Refusal

/-!
The verbosity decides which log records get through and nothing else. Reading a file and building
its catalog do not look at it, and what a command prints, returns or breaks off with is made from
the catalog alone; so two runs that settle on the same but for the verbosity show the same.
-/
namespace Apidoc

namespace Settings

structure AgreeButVerbosity (s t : Settings) : Prop where
  encoding : s.encoding = t.encoding
  replacement : s.replacement = t.replacement
  maxLength : s.maxLength = t.maxLength
  lowercase : s.lowercase = t.lowercase
  skipUnresolved : s.skipUnresolved = t.skipUnresolved

theorem AgreeButVerbosity.stemOptions {s t : Settings} (agree : s.AgreeButVerbosity t) :
    s.stemOptions = t.stemOptions := by
  simp only [Settings.stemOptions, agree.replacement, agree.maxLength, agree.lowercase]

/-- Loaded settings have the values of the highest sources. -/
theorem get_of_load {around : Surroundings} {named : Option Path} {overrides : Values}
    {s : Settings} (distinct : overrides.keys.Nodup) (loaded : load around named overrides = .ok s)
    (field : Field) :
    ∃ sources : Sources, s.get field = sources.highest overrides field := by
  obtain ⟨values, gathered, -⟩ := bind_eq_ok_iff.mp loaded
  obtain ⟨sources, read⟩ := gather_read gathered
  have accepted := ((read.load_eq_ok_iff distinct).mp loaded).2
  refine ⟨sources, ?_⟩
  rw [(ofValues_ok accepted field).1, read.valueAmong_merged distinct]

end Settings

namespace Catalog

variable {s t : Settings}

theorem create_congr (stems : s.stemOptions = t.stemOptions)
    (skips : s.skipUnresolved = t.skipUnresolved) (id : String) (comment : Option Comment) :
    create s id comment = create t id comment := by
  simp only [create, entityFor, stems, skips]

theorem createAll_congr (stems : s.stemOptions = t.stemOptions)
    (skips : s.skipUnresolved = t.skipUnresolved) (members : List (String × Comment)) :
    createAll s members = createAll t members := by
  induction members with
  | nil => rfl
  | cons member rest ih => simp only [createAll, create_congr stems skips, ih]

theorem link_congr (stems : s.stemOptions = t.stemOptions) (c : Catalog) :
    link s c = link t c := by
  have refused : refusal s = refusal t := by
    funext id
    simp only [refusal, stems]
  have carried : carryOut s = carryOut t := by
    funext c event
    cases event with
    | implied id => simp only [carryOut, entityFor, stems]
    | attached holder member => rfl
    | undeclared id => rfl
  simp only [link, refused, carried]

/-- Building looks at how stems are made and at whether unresolved ids are passed over. -/
theorem build_congr (stems : s.stemOptions = t.stemOptions)
    (skips : s.skipUnresolved = t.skipUnresolved) (file : CommentFile) :
    build s file = build t file := by
  simp only [build, createAll_congr stems skips, link_congr stems]

end Catalog

namespace Command

open Settings (Surroundings)

/-- What there is to see of a command beside the log: its exit code, what it prints, and what it
breaks off with. -/
def Outcome.seen (o : Outcome) : Nat × List Char × Option Failure :=
  (o.exit, o.output, o.failure)

def Outcome.levelAfter (o : Outcome) (before : Log.Level) : Log.Level :=
  o.level.getD before

section Outcome

variable (o : Outcome) {other : Outcome}

theorem logs_print (shown : Except Console.MarkupFault (List (List Char))) :
    (o.print shown).level = o.level ∧ (o.print shown).records = o.records := by
  cases shown with
  | ok lines => exact ⟨rfl, rfl⟩
  | error fault => exact ⟨rfl, rfl⟩

theorem logs_say (host : Host) (markup : String) :
    (o.say host markup).level = o.level ∧ (o.say host markup).records = o.records :=
  logs_print o _

variable {o}

theorem seen_print (same : o.seen = other.seen)
    (shown : Except Console.MarkupFault (List (List Char))) :
    (o.print shown).seen = (other.print shown).seen := by
  simp only [Outcome.seen, Prod.mk.injEq] at same
  cases shown with
  | ok lines => simp only [Outcome.print, Outcome.seen, same]
  | error fault => rfl

theorem seen_say (same : o.seen = other.seen) (host : Host) (markup : String) :
    (o.say host markup).seen = (other.say host markup).seen :=
  seen_print same _

end Outcome

def answer (host : Host) : Command → Outcome → Catalog → Outcome
  | .list request kind, start, catalog =>
    let entities := match kind with
      | some word => catalog.ofKind word
      | none => catalog.entities
    let table := tableOf host.pictographs (titleOf catalog request.file) entities
    start.print (table.map (·.lines host.width))
  | .inspect _ id, start, catalog =>
    match catalog.find? id with
    | none => { start with exit := notFound }.say host (alert "No entity with id" id)
    | some e => start.print (panelOf host id e)

theorem ReadsSettings.run_eq_answer {command : Command} (reads : command.ReadsSettings)
    (around : Surroundings) (host : Host) :
    command.run around host = withCatalog around host command.request (command.answer host) := by
  cases command with
  | list request kind =>
    have known : kind.filter (!Kind.isWord ·) = none := by
      cases kind with
      | none => rfl
      | some word => simp [reads word rfl]
    rw [run, known]
    rfl
  | inspect request id => rfl

theorem seen_answer {start other : Outcome} (same : start.seen = other.seen) (command : Command)
    (host : Host) (catalog : Catalog) :
    (command.answer host start catalog).seen = (command.answer host other catalog).seen := by
  cases command with
  | list request kind => exact seen_print same _
  | inspect request id =>
    simp only [answer]
    cases catalog.find? id with
    | none =>
      have still : { start with exit := notFound }.seen = { other with exit := notFound }.seen := by
        simp only [Outcome.seen, Prod.mk.injEq] at same ⊢
        exact ⟨trivial, same.2⟩
      exact seen_say still host _
    | some e => exact seen_print same _

theorem logs_answer (command : Command) (host : Host) (start : Outcome) (catalog : Catalog) :
    (command.answer host start catalog).level = start.level ∧
      (command.answer host start catalog).records = start.records := by
  cases command with
  | list request kind => exact logs_print start _
  | inspect request id =>
    simp only [answer]
    cases catalog.find? id with
    | none => exact logs_say { start with exit := notFound } host _
    | some e => exact logs_print start _

/-- Commands that ask for the same thing of the same file; the rest of what they are told may
differ. -/
inductive Alike : Command → Command → Prop where
  | list {request other : Request} (file : request.file = other.file) (kind : Option String) :
      Alike (.list request kind) (.list other kind)
  | inspect {request other : Request} (file : request.file = other.file) (id : String) :
      Alike (.inspect request id) (.inspect other id)

section Alike

variable {command variant : Command}

theorem Alike.file (alike : command.Alike variant) :
    command.request.file = variant.request.file := by
  cases alike with
  | list file kind => exact file
  | inspect file id => exact file

theorem Alike.answer (alike : command.Alike variant) (host : Host) :
    command.answer host = variant.answer host := by
  cases alike with
  | list file kind =>
    funext start catalog
    simp only [Command.answer, file]
  | inspect file id => rfl

theorem Alike.readsSettings (alike : command.Alike variant) (reads : command.ReadsSettings) :
    variant.ReadsSettings := by
  cases alike with
  | list file kind => exact reads
  | inspect file id => trivial

end Alike

/-- The only commands that do not look at their settings are those for a kind that is not known. -/
theorem exists_of_not_reads {command : Command} (unread : ¬command.ReadsSettings) :
    ∃ request word, command = .list request (some word) ∧ Kind.isWord word = false := by
  cases command with
  | list request kind =>
    cases kind with
    | none => exact absurd nofun unread
    | some word =>
      refine ⟨request, word, rfl, ?_⟩
      rw [← Bool.not_eq_true]
      intro known
      apply unread
      rintro _ ⟨⟩
      exact known
  | inspect request id => exact absurd trivial unread

theorem run_unknown {word : String} (unknown : Kind.isWord word = false) (request : Request)
    (around : Surroundings) (host : Host) :
    (Command.list request (some word)).run around host =
      Outcome.say { exit := inputError } host (alert "Unknown kind:" word) := by
  simp only [run, Option.filter_some, unknown, Bool.not_false, if_true]

def noticesFor (around : Surroundings) (decoders : Encoding.Decoders) (settings : Settings)
    (file : Path) : List Notice :=
  match CommentFile.read decoders around.find file settings.encoding with
  | .ok (comments, notices) => notices ++ (Catalog.build settings comments).1
  | .error _ => []

theorem catalogFor_notices (around : Surroundings) (decoders : Encoding.Decoders)
    (settings : Settings) (file : Path) :
    (catalogFor around decoders settings file).1 = noticesFor around decoders settings file := by
  unfold catalogFor noticesFor
  split
  · next failed => rw [failed]
  · next failed => rw [failed]
  · next failed => rw [failed]
  · next comments notices read =>
    rw [read]
    simp only
    split
    · next built => rw [built]
    · next built => rw [built]
    · next built => rw [built]

theorem catalogFor_congr {around other : Surroundings} {s t : Settings} {file : Path}
    (agree : s.AgreeButVerbosity t) (place : around.find file = other.find file)
    (decoders : Encoding.Decoders) :
    catalogFor around decoders s file = catalogFor other decoders t file := by
  simp only [catalogFor, CommentFile.read, place, agree.encoding,
    Catalog.build_congr agree.stemOptions agree.skipUnresolved]

def settle (host : Host) (next : Outcome → Catalog → Outcome) (start : Outcome) :
    Except (Problem ⊕ Failure) Catalog → Outcome
  | .ok catalog => next start catalog
  | .error (.inl p) => { start with exit := inputError }.say host (alert "Error:" p.text)
  | .error (.inr failure) => start.fail failure

section Settle

variable {next : Outcome → Catalog → Outcome}

theorem seen_settle
    (blind : ∀ start other catalog, start.seen = other.seen →
      (next start catalog).seen = (next other catalog).seen)
    {start other : Outcome} (same : start.seen = other.seen) (host : Host)
    (result : Except (Problem ⊕ Failure) Catalog) :
    (settle host next start result).seen = (settle host next other result).seen := by
  match result with
  | .ok catalog => exact blind start other catalog same
  | .error (.inl p) =>
    have still : { start with exit := inputError }.seen =
        { other with exit := inputError }.seen := by
      simp only [Outcome.seen, Prod.mk.injEq] at same ⊢
      exact ⟨trivial, same.2⟩
    exact seen_say still host _
  | .error (.inr failure) => rfl

theorem logs_settle
    (keeps : ∀ start catalog, (next start catalog).level = start.level ∧
      (next start catalog).records = start.records)
    (host : Host) (start : Outcome) (result : Except (Problem ⊕ Failure) Catalog) :
    (settle host next start result).level = start.level ∧
      (settle host next start result).records = start.records := by
  match result with
  | .ok catalog => exact keeps start catalog
  | .error (.inl p) => exact logs_say { start with exit := inputError } host _
  | .error (.inr failure) => exact ⟨rfl, rfl⟩

end Settle

def started (around : Surroundings) (decoders : Encoding.Decoders) (s : Settings) (file : Path) :
    Outcome where
  exit := success
  level := some (levelOf s.verbosity)
  records :=
    Log.passing (levelOf s.verbosity) ((noticesFor around decoders s file).map Notice.record)

theorem seen_started (around : Surroundings) (decoders : Encoding.Decoders) (s : Settings)
    (file : Path) : (started around decoders s file).seen = (success, [], none) := rfl

section Running

variable {around : Surroundings} {command : Command} {s : Settings}

theorem ReadsSettings.run_loaded (reads : command.ReadsSettings)
    (loaded : settingsFor around command.request = .ok s) (host : Host) :
    command.run around host =
      settle host (command.answer host) (started around host.decoders s command.request.file)
        (catalogFor around host.decoders s command.request.file).2 := by
  rw [reads.run_eq_answer, withCatalog, loaded, started, ← catalogFor_notices]
  simp only
  cases (catalogFor around host.decoders s command.request.file).2 with
  | ok catalog => rfl
  | error problem => cases problem <;> rfl

theorem ReadsSettings.logs_failed {fault : Settings.LoadFault} (reads : command.ReadsSettings)
    (failed : settingsFor around command.request = .error fault) (host : Host) :
    (command.run around host).level = none ∧ (command.run around host).records = [] := by
  rw [reads.run_eq_answer, withCatalog, failed]
  cases fault with
  | problem p => exact logs_say _ host _
  | _ => exact ⟨rfl, rfl⟩

end Running

section Flags

variable {around : Surroundings} {request : Request} {s : Settings}

def flags (request : Request) : Settings.Values :=
  [("verbose", .flag request.verbose), ("quiet", .flag request.quiet)]

theorem verbosity_of_flag {v : Verbosity} (loaded : settingsFor around request = .ok s)
    (flagged : Settings.overrideOf (flags request) .verbosity = some (.text v.word)) :
    s.verbosity = v := by
  have distinct : (flags request).keys.Nodup := by simp [flags, Ordered.keys]
  obtain ⟨sources, same⟩ := Settings.get_of_load distinct loaded .verbosity
  have word : Value.text s.verbosity.word = .text v.word := by
    rw [Settings.Sources.highest, flagged] at same
    exact same
  rw [Value.text.injEq, ← Verbosity.ofWord?_eq_some_iff,
    Verbosity.ofWord?_eq_some_iff.mpr rfl, Option.some.injEq] at word
  exact word.symm

theorem verbosity_of_quiet (loaded : settingsFor around request = .ok s)
    (quiet : request.quiet = true) : s.verbosity = .quiet := by
  apply verbosity_of_flag loaded
  simp [Settings.overrideOf, Settings.flagged, flags, Ordered.find?, Value.isGiven, quiet,
    Verbosity.word]

theorem verbosity_of_verbose (loaded : settingsFor around request = .ok s)
    (loud : request.quiet = false) (verbose : request.verbose = true) :
    s.verbosity = .verbose := by
  apply verbosity_of_flag loaded
  simp [Settings.overrideOf, Settings.flagged, flags, Ordered.find?, Value.isGiven, loud, verbose,
    Verbosity.word]

end Flags

def levelNumber : Verbosity → Int
  | .quiet => 40
  | .normal => 30
  | .verbose => 10

theorem number_levelOf (v : Verbosity) : (levelOf v).number = levelNumber v := by
  cases v <;> rfl

structure OnlyLogs (around : Surroundings) (host : Host) (command : Command) : Prop where
  same : ∀ other variant s t, command.Alike variant →
    around.find command.request.file = other.find command.request.file →
    settingsFor around command.request = .ok s → settingsFor other variant.request = .ok t →
    s.AgreeButVerbosity t →
    (command.run around host).seen = (variant.run other host).seen
  level : ∀ s, command.ReadsSettings → settingsFor around command.request = .ok s →
    ∀ before, ((command.run around host).levelAfter before).number = levelNumber s.verbosity
  records : ∀ s, command.ReadsSettings → settingsFor around command.request = .ok s →
    (command.run around host).records =
      ((noticesFor around host.decoders s command.request.file).map Notice.record).filter
        fun r => levelNumber s.verbosity ≤ r.level.number
  flags : ∀ s, settingsFor around command.request = .ok s →
    (command.request.quiet = true → s.verbosity = .quiet) ∧
      (command.request.quiet = false → command.request.verbose = true → s.verbosity = .verbose)
  kept : (¬command.ReadsSettings ∨ ∃ fault, settingsFor around command.request = .error fault) →
    ∀ before, (command.run around host).levelAfter before = before ∧
      (command.run around host).records = []

section Runs

variable {around other : Surroundings} {command variant : Command} {s t : Settings}

/-- Two runs that settle on the same but for the verbosity, seen side by side. -/
theorem seen_run (alike : command.Alike variant)
    (place : around.find command.request.file = other.find command.request.file)
    (loaded : settingsFor around command.request = .ok s)
    (loaded' : settingsFor other variant.request = .ok t) (agree : s.AgreeButVerbosity t)
    (host : Host) : (command.run around host).seen = (variant.run other host).seen := by
  by_cases reads : command.ReadsSettings
  · have start : (started around host.decoders s command.request.file).seen =
        (started other host.decoders t command.request.file).seen := by
      rw [seen_started, seen_started]
    rw [reads.run_loaded loaded, (alike.readsSettings reads).run_loaded loaded', ← alike.file,
      catalogFor_congr agree place, alike.answer]
    exact seen_settle (fun _ _ catalog same => seen_answer same variant host catalog) start host _
  · obtain ⟨request, word, rfl, unknown⟩ := exists_of_not_reads reads
    cases alike with
    | list file kind => rw [run_unknown unknown, run_unknown unknown]

theorem logs_run (reads : command.ReadsSettings)
    (loaded : settingsFor around command.request = .ok s) (host : Host) :
    (command.run around host).level = some (levelOf s.verbosity) ∧
      (command.run around host).records =
        Log.passing (levelOf s.verbosity)
          ((noticesFor around host.decoders s command.request.file).map Notice.record) := by
  rw [reads.run_loaded loaded]
  exact logs_settle (command.logs_answer host) host _ _

/-- Before the settings are known nothing is logged, and the level is not touched. -/
theorem logs_run_early
    (early : ¬command.ReadsSettings ∨ ∃ fault, settingsFor around command.request = .error fault)
    (host : Host) :
    (command.run around host).level = none ∧ (command.run around host).records = [] := by
  by_cases reads : command.ReadsSettings
  · rcases early with unread | ⟨fault, failed⟩
    · exact absurd reads unread
    · exact reads.logs_failed failed host
  · obtain ⟨request, word, rfl, unknown⟩ := exists_of_not_reads reads
    rw [run_unknown unknown]
    exact logs_say _ host _

end Runs

/-- Two runs that settle on the same but for the verbosity differ in nothing but the log, whose
level the verbosity sets and whose records are those that matter at least as much. -/
theorem verbosity_onlyLogs (around : Surroundings) (host : Host) (command : Command) :
    OnlyLogs around host command where
  same _ _ _ _ alike place loaded loaded' agree :=
    seen_run alike place loaded loaded' agree host
  level s reads loaded before := by
    rw [Outcome.levelAfter, (logs_run reads loaded host).1]
    exact number_levelOf s.verbosity
  records s reads loaded := by
    rw [(logs_run reads loaded host).2, Log.passing, number_levelOf]
  flags s loaded := ⟨verbosity_of_quiet loaded, verbosity_of_verbose loaded⟩
  kept early before := by
    obtain ⟨untouched, silent⟩ := logs_run_early early host
    rw [Outcome.levelAfter, untouched]
    exact ⟨rfl, silent⟩

def bareSurroundings : Surroundings where
  find path :=
    if path = ⟨"", ["a.xml"]⟩ then
      .file "<doc><members><member/></members></doc>".toUTF8.toList
    else .absent .missing
  current := ⟨"/", ["work"]⟩
  account := ⟨"/", ["home"]⟩
  environment _ := none

theorem load_bareSurroundings (request : Request) (unnamed : request.config = none) :
    settingsFor bareSurroundings request =
      .ok { verbosity :=
        if request.quiet then .quiet else if request.verbose then .verbose else .normal } := by
  have read : Settings.Sources.Read ⟨[], [], [], fun _ => none⟩ bareSurroundings none :=
    ⟨⟨_, rfl, rfl⟩, rfl, rfl, fun field => rfl⟩
  rw [settingsFor, unnamed, read.load_eq, Settings.check_eq]
  cases request.quiet <;> cases request.verbose <;> rw [if_pos (by decide +kernel)] <;> rfl

def sampleRequest (quiet : Bool) : Request :=
  ⟨⟨"", ["a.xml"]⟩, none, true, quiet⟩

theorem verbosity_onlyLogs_flags :
    (run bareSurroundings sampleHost (.inspect (sampleRequest false) "T:A")).seen =
        (run bareSurroundings sampleHost (.inspect (sampleRequest true) "T:A")).seen ∧
      ((run bareSurroundings sampleHost (.inspect (sampleRequest false) "T:A")).levelAfter
        .warning).number = 10 ∧
      ((run bareSurroundings sampleHost (.inspect (sampleRequest true) "T:A")).levelAfter
        .warning).number = 40 := by
  have loud := load_bareSurroundings (sampleRequest false) rfl
  have hushed := load_bareSurroundings (sampleRequest true) rfl
  have alike : Alike (.inspect (sampleRequest false) "T:A") (.inspect (sampleRequest true) "T:A") :=
    .inspect (by rfl) "T:A"
  have first := verbosity_onlyLogs bareSurroundings sampleHost
    (.inspect (sampleRequest false) "T:A")
  have second := verbosity_onlyLogs bareSurroundings sampleHost
    (.inspect (sampleRequest true) "T:A")
  exact ⟨first.same bareSurroundings _ _ _ alike rfl loud hushed ⟨rfl, rfl, rfl, rfl, rfl⟩,
    first.level _ trivial loud .warning, second.level _ trivial hushed .warning⟩

end Command

end Apidoc
