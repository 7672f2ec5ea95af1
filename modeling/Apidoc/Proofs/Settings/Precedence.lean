import Apidoc.Proofs.Ordered
import Apidoc.Proofs.Settings.Checked
import Apidoc.Proofs.Toml.Assignment
import Apidoc.Proofs.Toml.Keys
import Apidoc.Settings.Load

/-!
Where the value of a setting comes from. The sources are merged before anything is checked, so each
setting has the value of the highest source that gives it one, whatever lower sources say, while a
key that is not known is refused wherever it stands.
-/
namespace Apidoc.Settings

def variableOf (around : Surroundings) (field : Field) : Except String (Option Value) :=
  match around.environment field.envName with
  | none => .ok none
  | some text => (field.valueOf text).map some

structure Sources where
  home : Values
  project : Values
  named : Values
  environment : Field → Option Value

structure Sources.Read (sources : Sources) (around : Surroundings) (named : Option Path) :
    Prop where
  home : ∃ directory, around.home = .ok directory ∧
    readFile (directory.under homeFile) (around.find (directory.under homeFile)) = .ok sources.home
  project : readFile (around.current.under projectFile)
    (around.find (around.current.under projectFile)) = .ok sources.project
  named : readNamed around named = .ok sources.named
  environment : ∀ field, variableOf around field = .ok (sources.environment field)

def flagged (overrides : Values) (flag : String) : Bool :=
  (overrides.find? flag).any Value.isGiven

/-- The value of a key among the overrides; one that is given as none does not count. -/
def overriding? (overrides : Values) (key : String) : Option Value :=
  match overrides.find? key with
  | some .none => none
  | found => found

/-- The value that the overrides give a setting; the flags count more than a verbosity. -/
def overrideOf (overrides : Values) : Field → Option Value
  | .verbosity =>
    if flagged overrides "quiet" then some (.text "quiet")
    else if flagged overrides "verbose" then some (.text "verbose")
    else overriding? overrides Field.verbosity.key
  | field => overriding? overrides field.key

namespace Sources

/-- The value of a setting in the highest source that gives it one, else its usual value. -/
def highest (sources : Sources) (overrides : Values) (field : Field) : Value :=
  (overrideOf overrides field
    |>.or (sources.environment field)
    |>.or (sources.named.find? field.key)
    |>.or (sources.project.find? field.key)
    |>.or (sources.home.find? field.key)).getD (({} : Settings).get field)

/-- A key that some source has; the flags are no keys of settings. -/
def Mentions (sources : Sources) (overrides : Values) (key : String) : Prop :=
  (key ≠ "verbose" ∧ key ≠ "quiet" ∧ (overriding? overrides key).isSome) ∨
    (∃ field, key = Field.key field ∧ (sources.environment field).isSome) ∨
    key ∈ sources.named.keys ∨ key ∈ sources.project.keys ∨ key ∈ sources.home.keys

def Unknown (sources : Sources) (overrides : Values) (key : String) : Prop :=
  sources.Mentions overrides key ∧ ∀ field, Field.key field ≠ key

def given (sources : Sources) : Values :=
  Field.all.filterMap fun field => (sources.environment field).map (field.key, ·)

def merged (sources : Sources) (overrides : Values) : Values :=
  [sources.home, sources.project, sources.named, sources.given, effective overrides].foldl
    Ordered.merge []

end Sources

section Overrides

variable {overrides : Values}

theorem nodup_resolveFlag (distinct : overrides.keys.Nodup) (flag : String) (v : Verbosity) :
    (resolveFlag flag v overrides).keys.Nodup := by
  unfold resolveFlag
  split
  · exact distinct
  · have rest := Ordered.nodup_keys_filter distinct fun entry => decide (entry.1 ≠ flag)
    simp only
    split
    · exact Ordered.nodup_keys_insert rest _ _
    · exact rest

/-- A flag is gone once it is resolved, and a given one leaves its verbosity behind. -/
theorem find?_resolveFlag (distinct : overrides.keys.Nodup) (flag : String) (v : Verbosity)
    (key : String) :
    (resolveFlag flag v overrides).find? key =
      if key = Field.verbosity.key ∧ flagged overrides flag = true then some (.text v.word)
      else if key = flag then none else overrides.find? key := by
  have rest : Ordered.find? (overrides.filter fun entry => decide (entry.1 ≠ flag)) key =
      if key = flag then none else overrides.find? key := by
    rw [Ordered.find?_filter distinct]
    by_cases same : key = flag
    · simp [same]
    · cases overrides.find? key <;> simp [same, Option.filter_some]
  unfold resolveFlag flagged
  cases found : overrides.find? flag with
  | none =>
    by_cases same : key = flag
    · simp [same, found]
    · simp [same]
  | some value =>
    by_cases truthy : value.isGiven = true
    · simp only [truthy, if_true, Ordered.find?_insert, rest, Option.any_some, and_true]
      simp only [eq_comm]
    · simp only [truthy, if_false, rest, Option.any_some, and_false, Bool.false_eq_true]

theorem find?_effective_resolved (distinct : overrides.keys.Nodup) (key : String) :
    (effective overrides).find? key =
      overriding? (resolveFlag "quiet" .quiet (resolveFlag "verbose" .verbose overrides)) key := by
  have resolved := nodup_resolveFlag (nodup_resolveFlag distinct "verbose" .verbose) "quiet" .quiet
  rw [effective, Ordered.find?_filter resolved, overriding?]
  cases (resolveFlag "quiet" .quiet (resolveFlag "verbose" .verbose overrides)).find? key with
  | none => rfl
  | some value => cases value <;> rfl

/-- What is left of the overrides, key by key. -/
theorem find?_effective (distinct : overrides.keys.Nodup) (key : String) :
    (effective overrides).find? key =
      if key = Field.verbosity.key ∧ flagged overrides "quiet" = true then some (.text "quiet")
      else if key = Field.verbosity.key ∧ flagged overrides "verbose" = true then
        some (.text "verbose")
      else if key = "quiet" ∨ key = "verbose" then none
      else overriding? overrides key := by
  have verbose := nodup_resolveFlag distinct "verbose" .verbose
  -- The flags do not disturb each other: resolving one leaves the other as it was given.
  have quiet : flagged (resolveFlag "verbose" .verbose overrides) "quiet" =
      flagged overrides "quiet" := by
    rw [flagged, find?_resolveFlag distinct]
    rfl
  rw [find?_effective_resolved distinct, overriding?, overriding?,
    find?_resolveFlag verbose, find?_resolveFlag distinct, quiet]
  by_cases first : key = Field.verbosity.key ∧ flagged overrides "quiet" = true
  · simp only [first, and_self, if_true]
    rfl
  · simp only [first, if_false]
    by_cases isQuiet : key = "quiet"
    · subst isQuiet
      rfl
    · by_cases second : key = Field.verbosity.key ∧ flagged overrides "verbose" = true
      · simp only [second, and_self, if_true]
        rfl
      · by_cases isVerbose : key = "verbose"
        · subst isVerbose
          rfl
        · simp only [isQuiet, second, isVerbose, or_self, if_false]

theorem find?_effective_field (distinct : overrides.keys.Nodup) (field : Field) :
    (effective overrides).find? field.key = overrideOf overrides field := by
  rw [find?_effective distinct]
  cases field with
  | verbosity =>
    simp only [overrideOf, true_and]
    rfl
  | _ => rfl

end Overrides

section Reading

variable {around : Surroundings}

theorem readFile_parsed {path : Path} {bytes : List UInt8} {text : List Char} {entries : Values}
    (decoded : Encoding.Utf8.decode bytes = .ok text) (parsed : Toml.parse text = .ok entries) :
    readFile path (.file bytes) = .ok entries := by
  simp only [readFile, decoded, parsed]

/-- The values at a place: none where it is plain that nothing is there, else those of a file that
is UTF-8 and TOML. -/
theorem readFile_eq_ok_iff {path : Path} {place : Place} {values : Values} :
    readFile path place = .ok values ↔
      (∃ fault, place = .absent fault ∧ fault.isBlind = false ∧ values = []) ∨
        ∃ bytes text, place = .file bytes ∧ Encoding.Utf8.decode bytes = .ok text ∧
          Toml.parse text = .ok values := by
  constructor
  · intro read
    unfold readFile at read
    split at read
    · next fault =>
      split at read
      · cases read
      · next seen =>
        cases read
        exact .inl ⟨fault, rfl, (Bool.not_eq_true _).mp seen, rfl⟩
    · cases read
    · cases read
    · next bytes =>
      split at read
      · cases read
      · next text decoded =>
        split at read
        · next entries parsed =>
          cases read
          exact .inr ⟨bytes, text, rfl, decoded, parsed⟩
        · cases read
        · cases read
  · rintro (⟨fault, rfl, seen, rfl⟩ | ⟨bytes, text, rfl, decoded, parsed⟩)
    · simp [readFile, seen]
    · exact readFile_parsed decoded parsed

/-- A file that is named must be there. -/
theorem readNamed_eq_ok_iff {path : Path} {values : Values} :
    readNamed around (some path) = .ok values ↔
      ∃ bytes text, around.find path = .file bytes ∧ Encoding.Utf8.decode bytes = .ok text ∧
        Toml.parse text = .ok values := by
  simp only [readNamed]
  split
  · next fault absent =>
    rw [absent]
    split <;> simp
  · next present =>
    rw [readFile_eq_ok_iff, or_iff_right]
    rintro ⟨fault, absent, -, -⟩
    exact present fault absent

theorem nodup_readFile {path : Path} {place : Place} {values : Values}
    (read : readFile path place = .ok values) : values.keys.Nodup := by
  rcases readFile_eq_ok_iff.mp read with ⟨_, _, _, rfl⟩ | ⟨_, _, _, _, parsed⟩
  · exact List.nodup_nil
  · exact Toml.nodup_keys_parse parsed

theorem nodup_readNamed {named : Option Path} {values : Values}
    (read : readNamed around named = .ok values) : values.keys.Nodup := by
  cases named with
  | none =>
    cases read
    exact List.nodup_nil
  | some path =>
    obtain ⟨_, _, _, _, parsed⟩ := readNamed_eq_ok_iff.mp read
    exact Toml.nodup_keys_parse parsed

theorem flagOfWord?_eq_some_iff {word : String} {b : Bool} :
    flagOfWord? word = some b ↔
      Text.lowerString word ∈
        (if b then ["true", "1", "yes", "on"] else ["false", "0", "no", "off"]) := by
  unfold flagOfWord?
  simp only [List.contains_iff_mem]
  split
  · next yes =>
    cases b with
    | true => simpa using yes
    | false =>
      -- No word is in both lists.
      simp only [List.mem_cons, List.not_mem_nil, or_false] at yes
      rcases yes with same | same | same | same <;> simp [same]
  · next other =>
    split
    · next no => cases b <;> simp_all
    · next strange => cases b <;> simp_all

/-- A variable is read by the type of its setting, so its value never has another type. -/
theorem valueOf_eq_ok_iff {field : Field} {text : String} {value : Value} :
    field.valueOf text = .ok value ↔
      match value with
      | .text t => t = text ∧ (field = .encoding ∨ field = .replacement ∨ field = .verbosity)
      | .integer n => field = .maxLength ∧ Text.readInteger text = .ok n
      | .flag b => (field = .lowercase ∨ field = .skipUnresolved) ∧ flagOfWord? text = some b
      | _ => False := by
  cases field with
  | maxLength =>
    simp only [Field.valueOf]
    cases read : Text.readInteger text with
    | ok n => cases value <;> simp [eq_comm]
    | error fault => cases value <;> simp
  | lowercase | skipUnresolved =>
    simp only [Field.valueOf]
    cases word : flagOfWord? text with
    | some b => cases value <;> simp [eq_comm]
    | none => cases value <;> simp
  | encoding | replacement | verbosity => cases value <;> simp [Field.valueOf, eq_comm]

theorem variableOf_of_readVariables {fields : List Field} {values : Values}
    (read : readVariables around fields = .ok values) :
    ∀ field ∈ fields, ∃ v, variableOf around field = .ok v := by
  induction fields generalizing values with
  | nil => simp
  | cons field rest ih =>
    intro other there
    rw [readVariables] at read
    split at read
    · next unset =>
      rcases List.mem_cons.mp there with rfl | later
      · exact ⟨none, by rw [variableOf, unset]⟩
      · exact ih read other later
    · next text set =>
      split at read
      · cases read
      · next value parsed =>
        obtain ⟨more, readLater, -⟩ := map_eq_ok_iff.mp read
        rcases List.mem_cons.mp there with rfl | later
        · exact ⟨some value, by simp only [variableOf, set, parsed]; rfl⟩
        · exact ih readLater other later

theorem readVariables_of_variableOf {fields : List Field} {value : Field → Option Value}
    (known : ∀ field ∈ fields, variableOf around field = .ok (value field)) :
    readVariables around fields =
      .ok (fields.filterMap fun field => (value field).map (field.key, ·)) := by
  induction fields with
  | nil => rfl
  | cons field rest ih =>
    have later := ih fun other there => known other (List.mem_cons_of_mem field there)
    have first := known field List.mem_cons_self
    rw [readVariables, List.filterMap_cons]
    unfold variableOf at first
    cases set : around.environment field.envName with
    | none =>
      simp only [set, Except.ok.injEq] at first
      simp only [← first, Option.map_none]
      exact later
    | some text =>
      simp only [set] at first
      obtain ⟨v, parsed, same⟩ := map_eq_ok_iff.mp first
      simp only [parsed, ← same, Option.map_some, later]
      rfl

theorem mem_all (field : Field) : field ∈ Field.all := by
  cases field <;> decide

theorem key_injective {field other : Field} (same : field.key = other.key) : field = other := by
  cases field <;> cases other <;> simp [Field.key] at same ⊢

theorem gather_read {named : Option Path} {overrides values : Values}
    (gathered : gather around named overrides = .ok values) :
    ∃ sources : Sources, sources.Read around named := by
  simp only [gather, bind_eq_ok_iff] at gathered
  obtain ⟨directory, home, fromHome, readHome, fromProject, readProject, fromNamed, readNamed,
    fromVariables, readVariables, -⟩ := gathered
  have parsed := variableOf_of_readVariables readVariables
  choose value known using fun field => parsed field (mem_all field)
  exact ⟨⟨fromHome, fromProject, fromNamed, value⟩, ⟨directory, home, readHome⟩, readProject,
    readNamed, known⟩

theorem Sources.Read.gather {sources : Sources} {named : Option Path}
    (read : sources.Read around named) (overrides : Values) :
    gather around named overrides = .ok (sources.merged overrides) := by
  obtain ⟨directory, home, readHome⟩ := read.home
  have fromVariables := readVariables_of_variableOf fun field (_ : field ∈ Field.all) =>
    read.environment field
  simp only [Settings.gather, bind_eq_ok_iff]
  exact ⟨directory, home, sources.home, readHome, sources.project, read.project, sources.named,
    read.named, _, fromVariables, rfl⟩

end Reading

theorem find?_filterMap_key (value : Field → Option Value) (fields : List Field) (field : Field) :
    Ordered.find? (fields.filterMap fun f => (value f).map (f.key, ·)) field.key =
      if field ∈ fields then value field else none := by
  induction fields with
  | nil => rfl
  | cons first rest ih =>
    rw [List.filterMap_cons]
    by_cases same : first = field
    · subst same
      cases found : value first with
      | none => simp [ih, found]
      | some v => simp [Ordered.find?]
    · have apart : first.key ≠ field.key := fun keys => same (key_injective keys)
      have other : field ≠ first := Ne.symm same
      cases value first with
      | none => simp [ih, other]
      | some v => simp [Ordered.find?, apart, ih, other]

theorem keys_filterMap_sublist (value : Field → Option Value) (fields : List Field) :
    (Ordered.keys (fields.filterMap fun f => (value f).map (f.key, ·))).Sublist
      (fields.map Field.key) := by
  induction fields with
  | nil => exact List.Sublist.refl []
  | cons first rest ih =>
    rw [List.filterMap_cons]
    cases value first with
    | none => exact ih.cons first.key
    | some v => exact ih.cons_cons first.key

namespace Sources

variable {around : Surroundings} {named : Option Path} {overrides : Values} {sources : Sources}

theorem find?_given (sources : Sources) (field : Field) :
    sources.given.find? field.key = sources.environment field := by
  rw [given, find?_filterMap_key, if_pos (mem_all field)]

theorem mem_keys_given {key : String} :
    key ∈ sources.given.keys ↔
      ∃ field, key = Field.key field ∧ (sources.environment field).isSome := by
  constructor
  · intro there
    obtain ⟨value, entry⟩ := Ordered.exists_of_mem_keys there
    obtain ⟨field, -, found⟩ := List.mem_filterMap.mp entry
    obtain ⟨v, given, same⟩ := Option.map_eq_some_iff.mp found
    cases same
    exact ⟨field, rfl, by rw [given]; rfl⟩
  · rintro ⟨field, rfl, given⟩
    rw [← Ordered.has_eq_true_iff, Ordered.has, find?_given]
    exact given

theorem nodup_given (sources : Sources) : sources.given.keys.Nodup := by
  have once : (Field.all.map Field.key).Nodup := by decide
  exact once.sublist (keys_filterMap_sublist sources.environment Field.all)

theorem nodup_effective (distinct : overrides.keys.Nodup) : (effective overrides).keys.Nodup :=
  Ordered.nodup_keys_filter
    (nodup_resolveFlag (nodup_resolveFlag distinct "verbose" .verbose) "quiet" .quiet) _

theorem nodup_merged (sources : Sources) (overrides : Values) :
    (sources.merged overrides).keys.Nodup := by
  simp only [merged, List.foldl_cons, List.foldl_nil]
  repeat apply Ordered.nodup_keys_merge
  exact List.nodup_nil

/-- A later source counts more than an earlier one, whatever the key. -/
theorem Read.find?_merged (read : sources.Read around named) (distinct : overrides.keys.Nodup)
    (key : String) :
    (sources.merged overrides).find? key =
      ((effective overrides).find? key
        |>.or (sources.given.find? key)
        |>.or (sources.named.find? key)
        |>.or (sources.project.find? key)
        |>.or (sources.home.find? key)) := by
  obtain ⟨directory, -, home⟩ := read.home
  simp only [merged, List.foldl_cons, List.foldl_nil]
  rw [Ordered.find?_merge (nodup_effective distinct), Ordered.find?_merge sources.nodup_given,
    Ordered.find?_merge (nodup_readNamed read.named),
    Ordered.find?_merge (nodup_readFile read.project), Ordered.find?_merge (nodup_readFile home)]
  simp only [Option.or_assoc, Ordered.find?, Option.or_none]

theorem Read.valueAmong_merged (read : sources.Read around named)
    (distinct : overrides.keys.Nodup) (field : Field) :
    valueAmong (sources.merged overrides) field = sources.highest overrides field := by
  rw [valueAmong, read.find?_merged distinct, find?_effective_field distinct, find?_given]
  rfl

/-- The keys of the merged values that belong to no setting are those that some source has. -/
theorem Read.mem_merged_iff (read : sources.Read around named) (distinct : overrides.keys.Nodup)
    {key : String} (foreign : ∀ field, Field.key field ≠ key) :
    key ∈ (sources.merged overrides).keys ↔ sources.Mentions overrides key := by
  have other : ¬key = Field.verbosity.key := fun same => foreign .verbosity same.symm
  have left : ((effective overrides).find? key).isSome = true ↔
      key ≠ "verbose" ∧ key ≠ "quiet" ∧ (overriding? overrides key).isSome := by
    rw [find?_effective distinct]
    simp only [other, false_and, if_false]
    by_cases isFlag : key = "quiet" ∨ key = "verbose"
    · rw [if_pos isFlag]
      rcases isFlag with rfl | rfl <;> simp
    · rw [if_neg isFlag]
      rw [not_or] at isFlag
      simp [isFlag]
  have found : ∀ m : Values, (m.find? key).isSome = true ↔ key ∈ m.keys := fun m =>
    Ordered.has_eq_true_iff
  rw [← found, read.find?_merged distinct]
  simp only [Option.isSome_or, Bool.or_eq_true, left, found, mem_keys_given, Mentions, or_assoc]

end Sources

theorem isKey_iff {key : String} : isKey key = true ↔ ∃ field, Field.key field = key := by
  simp [isKey, mem_all]

def foreignKeys (values : Values) : List String :=
  (values.keys.filter (!isKey ·)).mergeSort (· ≤ ·)

variable {values : Values}

theorem mem_foreignKeys {key : String} :
    key ∈ foreignKeys values ↔ key ∈ values.keys ∧ ∀ field, Field.key field ≠ key := by
  simp only [foreignKeys, List.mem_mergeSort, List.mem_filter, Bool.not_eq_true',
    ← Bool.not_eq_true, isKey_iff, not_exists, ne_eq]

theorem nodup_foreignKeys (distinct : values.keys.Nodup) : (foreignKeys values).Nodup :=
  (List.mergeSort_perm _ _).nodup_iff.mpr (distinct.filter _)

theorem sorted_foreignKeys (values : Values) : (foreignKeys values).Pairwise (· ≤ ·) := by
  have trans : ∀ a b c : String,
      decide (a ≤ b) = true → decide (b ≤ c) = true → decide (a ≤ c) = true := by
    intro a b c first second
    rw [decide_eq_true_eq] at first second ⊢
    exact String.le_trans first second
  have total : ∀ a b : String, (decide (a ≤ b) || decide (b ≤ a)) = true := by
    intro a b
    rw [Bool.or_eq_true, decide_eq_true_eq, decide_eq_true_eq]
    exact String.le_total a b
  have sorted := List.pairwise_mergeSort trans total (values.keys.filter (!isKey ·))
  exact sorted.imp fun ordered => of_decide_eq_true ordered

/-- Values with foreign keys are refused for these, and others checked one by one. -/
theorem check_eq (values : Values) :
    check values =
      if foreignKeys values = [] then
        (ofValues values).mapError fun fault =>
          refuse fault.key ((values.find? fault.key).getD .none) fault.message
      else .error (.problem (.configuration
        ("Unknown configuration keys: " ++ ", ".intercalate (foreignKeys values))
        [("keys", ", ".intercalate (foreignKeys values))])) := by
  unfold check
  simp only [List.isEmpty_iff]
  rfl

structure Governed (around : Surroundings) (named : Option Path) (overrides : Values) : Prop where
  highest : ∀ s, load around named overrides = .ok s →
    ∃ sources : Sources, sources.Read around named ∧
      ∀ field, s.get field = sources.highest overrides field
  accepted : ∀ sources : Sources, sources.Read around named →
    ((∃ s, load around named overrides = .ok s) ↔
      (∀ key, sources.Mentions overrides key → ∃ field, Field.key field = key) ∧
        ∀ field, Allowed field (sources.highest overrides field))
  reported : ∀ sources : Sources, sources.Read around named →
    (∃ key, sources.Unknown overrides key) →
    ∃ unknown : List String, (∀ key, key ∈ unknown ↔ sources.Unknown overrides key) ∧
      unknown.Nodup ∧ unknown.Pairwise (· ≤ ·) ∧
      load around named overrides = .error (.problem (.configuration
        ("Unknown configuration keys: " ++ ", ".intercalate unknown)
        [("keys", ", ".intercalate unknown)]))

namespace Sources.Read

variable {around : Surroundings} {named : Option Path} {overrides : Values} {sources : Sources}

theorem load_eq (read : sources.Read around named) (overrides : Values) :
    load around named overrides = check (sources.merged overrides) := by
  rw [load, read.gather]
  rfl

theorem mem_foreignKeys_iff (read : sources.Read around named) (distinct : overrides.keys.Nodup)
    {key : String} :
    key ∈ foreignKeys (sources.merged overrides) ↔ sources.Unknown overrides key := by
  rw [mem_foreignKeys, Sources.Unknown]
  constructor
  · rintro ⟨there, foreign⟩
    exact ⟨(read.mem_merged_iff distinct foreign).mp there, foreign⟩
  · rintro ⟨there, foreign⟩
    exact ⟨(read.mem_merged_iff distinct foreign).mpr there, foreign⟩

theorem foreignKeys_eq_nil_iff (read : sources.Read around named)
    (distinct : overrides.keys.Nodup) :
    foreignKeys (sources.merged overrides) = [] ↔
      ∀ key, sources.Mentions overrides key → ∃ field, Field.key field = key := by
  rw [List.eq_nil_iff_forall_not_mem]
  simp only [read.mem_foreignKeys_iff distinct, Sources.Unknown, not_and, not_forall, not_not]

theorem load_eq_ok_iff (read : sources.Read around named) (distinct : overrides.keys.Nodup)
    {s : Settings} :
    load around named overrides = .ok s ↔
      (∀ key, sources.Mentions overrides key → ∃ field, Field.key field = key) ∧
        ofValues (sources.merged overrides) = .ok s := by
  rw [read.load_eq, check_eq, ← read.foreignKeys_eq_nil_iff distinct]
  split
  · next known => simp [known, mapError_eq_ok_iff]
  · next foreign => simp [foreign]

end Sources.Read

/-- Each setting has the value of the highest source that gives it one; settings are had exactly
when no source has a foreign key and the values that come out on top are allowed. -/
theorem load_governed (around : Surroundings) (named : Option Path) {overrides : Values}
    (distinct : overrides.keys.Nodup) : Governed around named overrides := by
  constructor
  · intro s loaded
    obtain ⟨values, gathered, -⟩ := bind_eq_ok_iff.mp loaded
    obtain ⟨sources, read⟩ := gather_read gathered
    refine ⟨sources, read, ?_⟩
    intro field
    rw [(ofValues_ok ((read.load_eq_ok_iff distinct).mp loaded).2 field).1,
      read.valueAmong_merged distinct]
  · intro sources read
    simp only [read.load_eq_ok_iff distinct, exists_and_left, exists_ofValues_iff,
      read.valueAmong_merged distinct]
  · rintro sources read ⟨key, unknown⟩
    have there := (read.mem_foreignKeys_iff distinct).mpr unknown
    refine ⟨foreignKeys (sources.merged overrides), fun _ => read.mem_foreignKeys_iff distinct,
      nodup_foreignKeys (sources.nodup_merged overrides), sorted_foreignKeys _, ?_⟩
    rw [read.load_eq, check_eq, if_neg (List.ne_nil_of_mem there)]

theorem isBareName_key (field : Field) : Toml.IsBareName field.key.toList := by
  cases field <;> exact ⟨by decide, List.all_eq_true.mp (by decide)⟩

/-- A file of one line that gives a setting a text. -/
theorem parse_literal (field : Field) (text : List Char)
    (plain : ∀ c ∈ text, c ≠ '\'' ∧ Toml.isForbidden c = false) :
    Toml.parse (field.key.toList ++ " = '".toList ++ text ++ ['\'']) =
      .ok [(field.key, .text (String.ofList text))] := by
  have noReturn : '\r' ∉ text := by
    intro there
    exact absurd (plain '\r' there).2 (by decide)
  have parsed := Toml.parse_assignment (isBareName_key field) (by simp; decide)
    (by simp [noReturn]) (Toml.readValue_literal plain)
  simpa using parsed

def sampleFile : Path := ⟨"", ["team.toml"]⟩

/-- The encoding of the home file and the text for a yes or no in the file that is named are not
allowed, but higher sources have other values. -/
def sampleSurroundings : Surroundings where
  find path :=
    if path = ⟨"/", ["home", homeFile]⟩ then .file "encoding = ''".toUTF8.toList
    else if path = ⟨"/", ["work", projectFile]⟩ then .file "encoding = 'u8'".toUTF8.toList
    else if path = sampleFile then .file "skip_unresolved = 'no'".toUTF8.toList
    else .absent .missing
  current := ⟨"/", ["work"]⟩
  account := ⟨"/", ["home"]⟩
  environment name :=
    [("DOCWEAVE_NORMALIZED_ID_MAX_LENGTH", " 6_4"), ("DOCWEAVE_SKIP_UNRESOLVED", "Off"),
      ("DOCWEAVE_VERBOSITY", "verbose")].lookup name

def sampleSources : Sources where
  home := [("encoding", .text "")]
  project := [("encoding", .text "u8")]
  named := [("skip_unresolved", .text "no")]
  environment
    | .maxLength => some (.integer 64)
    | .skipUnresolved => some (.flag false)
    | .verbosity => some (.text "verbose")
    | _ => none

theorem read_sample : sampleSources.Read sampleSurroundings (some sampleFile) := by
  have home : Toml.parse "encoding = ''".toList = .ok sampleSources.home :=
    parse_literal .encoding [] nofun
  have project : Toml.parse "encoding = 'u8'".toList = .ok sampleSources.project :=
    parse_literal .encoding ['u', '8'] (by simp [Toml.isForbidden])
  have named : Toml.parse "skip_unresolved = 'no'".toList = .ok sampleSources.named :=
    parse_literal .skipUnresolved ['n', 'o'] (by simp [Toml.isForbidden])
  constructor
  · exact ⟨⟨"/", ["home"]⟩, rfl, readFile_parsed (by decide +kernel) home⟩
  · exact readFile_parsed (by decide +kernel) project
  · exact readNamed_eq_ok_iff.mpr ⟨_, _, rfl, by decide +kernel, named⟩
  · intro field
    cases field <;> rfl

def sampleOverrides : Values :=
  [("quiet", .flag true), ("encoding", .none)]

theorem load_governed_sample :
    sampleOverrides.keys.Nodup ∧
      Governed sampleSurroundings (some sampleFile) sampleOverrides ∧
      (load sampleSurroundings (some sampleFile) sampleOverrides).toOption = some
        { encoding := "u8", maxLength := 64, skipUnresolved := false, verbosity := .quiet } := by
  have distinct : sampleOverrides.keys.Nodup := by decide
  refine ⟨distinct, load_governed sampleSurroundings _ distinct, ?_⟩
  rw [read_sample.load_eq]
  decide +kernel

end Apidoc.Settings
