import Apidoc.Proofs.MemberId
import Apidoc.Proofs.Settings.Precedence

/-!
Which setting a refusal names. A fault is always one of a single value, and the same value is
refused for it when nothing else is given. The key that is reported is only the first word of a
message, and all messages but one begin with the key: that of an encoding with a null character in
it does not.
-/
namespace Apidoc.Settings

def Fault.field : Fault → Field
  | .wrongType field _ => field
  | .shortLength => .maxLength
  | .longReplacement => .replacement
  | .unknownVerbosity => .verbosity
  | .emptyEncoding => .encoding
  | .nulInEncoding => .encoding
  | .unknownEncoding _ => .encoding

def fault? : Field → Value → Option Fault
  | .encoding, .text name =>
    match checkEncoding name with
    | .error fault => some fault
    | .ok _ => none
  | .replacement, .text s => if s.length > 1 then some .longReplacement else none
  | .maxLength, .integer n => if n < leastLength then some .shortLength else none
  | .lowercase, .flag _ => none
  | .skipUnresolved, .flag _ => none
  | .verbosity, .text word =>
    match Verbosity.ofWord? word with
    | none => some .unknownVerbosity
    | some _ => none
  | field, v => some (.wrongType field v.typeName)

variable {values : Values} {field : Field} {value : Value} {fault : Fault}

section Messages

theorem space_notMem_key (field : Field) : ' ' ∉ field.key.toList := by
  cases field <;> decide

theorem Fault.message_eq (told : fault ≠ .nulInEncoding) :
    ∃ rest, fault.message.toList = fault.field.key.toList ++ ' ' :: rest := by
  cases fault with
  | nulInEncoding => exact absurd rfl told
  | _ =>
    simp only [message, String.toList_append, List.append_assoc]
    exact ⟨_, rfl⟩

theorem Fault.key_eq (told : fault ≠ .nulInEncoding) : fault.key = fault.field.key := by
  obtain ⟨rest, message⟩ := message_eq told
  rw [key, message, cutAtFirst_append (space_notMem_key _), String.ofList_toList]

end Messages

section Faults

theorem field_of_checkEncoding {name : String} (refused : checkEncoding name = .error fault) :
    fault.field = .encoding := by
  unfold checkEncoding at refused
  split_ifs at refused <;> cases refused <;> rfl

theorem fault?_of_typeName (other : value.typeName ≠ field.typeName) :
    fault? field value = some (.wrongType field value.typeName) := by
  unfold fault?
  split
  all_goals first | rfl | exact absurd rfl other

theorem fault?_of_allowed (allowed : Allowed field value) : fault? field value = none := by
  cases field with
  | encoding =>
    cases value with
    | text name => simp only [fault?, checkEncoding_eq_ok_iff.mpr allowed]
    | _ => cases allowed
  | replacement =>
    cases value with
    | text s => exact if_neg (Nat.not_lt.mpr allowed)
    | _ => cases allowed
  | maxLength =>
    cases value with
    | integer n => exact if_neg (Int.not_lt.mpr allowed)
    | _ => cases allowed
  | lowercase =>
    cases value with
    | flag b => rfl
    | _ => cases allowed
  | skipUnresolved =>
    cases value with
    | flag b => rfl
    | _ => cases allowed
  | verbosity =>
    obtain ⟨s, rfl⟩ := allowed.exists_get
    have known : Verbosity.ofWord? s.verbosity.word = some s.verbosity :=
      Verbosity.ofWord?_eq_some_iff.mpr rfl
    simp only [fault?, get, known]

theorem allowed_usual (field : Field) : Allowed field (({} : Settings).get field) := by
  have usual : ofValues [] = .ok {} := by rfl
  exact (ofValues_ok usual field).2

end Faults

section Checks

theorem textOf_eq_error_iff {default : String} :
    textOf values field default = .error fault ↔
      fault = .wrongType field ((values.find? field.key).getD (.text default)).typeName ∧
        ((values.find? field.key).getD (.text default)).typeName ≠ "str" := by
  unfold textOf
  cases values.find? field.key with
  | none => simp [Value.typeName]
  | some v => cases v <;> simp [Value.typeName, eq_comm]

theorem integerOf_eq_error_iff {default : Int} :
    integerOf values field default = .error fault ↔
      fault = .wrongType field ((values.find? field.key).getD (.integer default)).typeName ∧
        ((values.find? field.key).getD (.integer default)).typeName ≠ "int" := by
  unfold integerOf
  cases values.find? field.key with
  | none => simp [Value.typeName]
  | some v => cases v <;> simp [Value.typeName, eq_comm]

theorem flagOf_eq_error_iff {default : Bool} :
    flagOf values field default = .error fault ↔
      fault = .wrongType field ((values.find? field.key).getD (.flag default)).typeName ∧
        ((values.find? field.key).getD (.flag default)).typeName ≠ "bool" := by
  unfold flagOf
  cases values.find? field.key with
  | none => simp [Value.typeName]
  | some v => cases v <;> simp [Value.typeName, eq_comm]

/-- Values are refused for what is wrong with one of them. The name of the encoding comes last: all
others have passed when something is found about it. -/
theorem fault?_of_ofValues (refused : ofValues values = .error fault) :
    (fault ≠ .nulInEncoding ∧ fault? fault.field (valueAmong values fault.field) = some fault) ∨
      ∃ name, valueAmong values .encoding = .text name ∧ checkEncoding name = .error fault ∧
        ∀ field, field ≠ .encoding → Allowed field (valueAmong values field) := by
  simp only [ofValues, bind_eq_error_iff, textOf_eq_ok_iff, integerOf_eq_ok_iff, flagOf_eq_ok_iff,
    textOf_eq_error_iff, integerOf_eq_error_iff, flagOf_eq_error_iff] at refused
  rcases refused with ⟨rfl, other⟩ | ⟨encoding, encodingIs, ⟨rfl, other⟩ | ⟨replacement,
    replacementIs, ⟨rfl, other⟩ | ⟨maxLength, maxLengthIs, ⟨rfl, other⟩ | ⟨lowercase, lowercaseIs,
      ⟨rfl, other⟩ | ⟨skipUnresolved, skipUnresolvedIs, ⟨rfl, other⟩ | ⟨word, wordIs, checks⟩⟩⟩⟩⟩⟩
  -- Six values of a wrong type, then what the checks of the right types find, in their order.
  iterate 6 exact .inl ⟨by rintro ⟨⟩, fault?_of_typeName other⟩
  have replacementIs : valueAmong values .replacement = .text replacement := replacementIs
  have maxLengthIs : valueAmong values .maxLength = .integer maxLength := maxLengthIs
  have lowercaseIs : valueAmong values .lowercase = .flag lowercase := lowercaseIs
  have skipUnresolvedIs : valueAmong values .skipUnresolved = .flag skipUnresolved :=
    skipUnresolvedIs
  have wordIs : valueAmong values .verbosity = .text word := wordIs
  split at checks
  · next short =>
    cases checks
    exact .inl ⟨by rintro ⟨⟩, by rw [Fault.field, maxLengthIs]; exact if_pos short⟩
  · next enough =>
    split at checks
    · next long =>
      cases checks
      exact .inl ⟨by rintro ⟨⟩, by rw [Fault.field, replacementIs]; exact if_pos long⟩
    · next single =>
      cases found : Verbosity.ofWord? word with
      | none =>
        rw [found] at checks
        cases checks
        exact .inl ⟨by rintro ⟨⟩, by simp only [Fault.field, wordIs, fault?, found]⟩
      | some verbosity =>
        simp only [found, bind_eq_error_iff] at checks
        rcases checks with unnamed | ⟨_, -, made⟩
        · refine .inr ⟨encoding, encodingIs, unnamed, ?_⟩
          intro field other
          cases field with
          | encoding => exact absurd rfl other
          | replacement => rw [replacementIs]; exact Nat.le_of_not_lt single
          | maxLength => rw [maxLengthIs]; exact Int.not_lt.mp enough
          | lowercase => rw [lowercaseIs]; exact trivial
          | skipUnresolved => rw [skipUnresolvedIs]; exact trivial
          | verbosity =>
            rw [wordIs, ← Verbosity.ofWord?_eq_some_iff.mp found]
            cases verbosity <;> simp [Allowed, Verbosity.word]
        · cases made

end Checks

/-- A name with a null character in it is given for the encoding, and it is all that is wrong. -/
def NulEncoded (values : Values) : Prop :=
  (∃ name, values.find? Field.encoding.key = some (.text name) ∧ '\x00' ∈ name.toList) ∧
    ∀ field, field ≠ .encoding → Allowed field (valueAmong values field)

theorem checkEncoding_nul_iff {name : String} :
    checkEncoding name = .error .nulInEncoding ↔ '\x00' ∈ name.toList := by
  unfold checkEncoding
  constructor
  · intro refused
    split_ifs at refused with empty nul
    · cases refused
    · exact List.contains_iff_mem.mp nul
    · cases refused
  · intro there
    have nonempty : ¬name.isEmpty = true := by
      intro empty
      rw [String.isEmpty_iff.mp empty] at there
      cases there
    rw [if_neg nonempty, if_pos (List.contains_iff_mem.mpr there)]

section Single

/-- A value with something wrong is given: what is not given has its usual value. -/
theorem find?_of_fault? (wrong : fault? field (valueAmong values field) = some fault) :
    values.find? field.key = some (valueAmong values field) := by
  unfold valueAmong at wrong ⊢
  cases given : values.find? field.key with
  | none =>
    rw [given, Option.getD_none, fault?_of_allowed (allowed_usual field)] at wrong
    cases wrong
  | some v => rfl

theorem fault?_field_of_ofValues (refused : ofValues values = .error fault) :
    fault? fault.field (valueAmong values fault.field) = some fault := by
  rcases fault?_of_ofValues refused with ⟨-, wrong⟩ | ⟨name, encodingIs, unnamed, -⟩
  · exact wrong
  · simp only [field_of_checkEncoding unnamed, encodingIs, fault?, unnamed]

/-- Where one value at most is not allowed, it is refused for what is wrong with it. -/
theorem ofValues_of_fault? (wrong : fault? field (valueAmong values field) = some fault)
    (others : ∀ other, other ≠ field → Allowed other (valueAmong values other)) :
    ofValues values = .error fault := by
  cases checked : ofValues values with
  | ok s =>
    obtain ⟨same, allowed⟩ := ofValues_ok checked field
    rw [← same, fault?_of_allowed allowed] at wrong
    cases wrong
  | error first =>
    -- The first fault is about a value that is not allowed, and a value has no other fault.
    have found := fault?_field_of_ofValues checked
    by_cases same : first.field = field
    · rw [same] at found
      rw [Option.some.inj (found.symm.trans wrong)]
    · rw [fault?_of_allowed (others _ same)] at found
      cases found

theorem valueAmong_single (field : Field) (value : Value) :
    valueAmong [(field.key, value)] field = value := by
  simp [valueAmong, Ordered.find?]

theorem ofValues_single (wrong : fault? field value = some fault) :
    ofValues [(field.key, value)] = .error fault := by
  refine ofValues_of_fault? ((valueAmong_single field value).symm ▸ wrong) ?_
  intro other apart
  have keys : ¬field.key = other.key := fun same => apart (key_injective same).symm
  have usual : valueAmong [(field.key, value)] other = ({} : Settings).get other := by
    simp [valueAmong, Ordered.find?, keys]
  rw [usual]
  exact allowed_usual other

end Single

theorem ofValues_nul_iff : ofValues values = .error .nulInEncoding ↔ NulEncoded values := by
  constructor
  · intro refused
    rcases fault?_of_ofValues refused with ⟨told, -⟩ | ⟨name, encodingIs, unnamed, others⟩
    · exact absurd rfl told
    · have given := find?_of_fault? (fault?_field_of_ofValues refused)
      rw [Fault.field, encodingIs] at given
      exact ⟨⟨name, given, checkEncoding_nul_iff.mp unnamed⟩, others⟩
  · rintro ⟨⟨name, given, nul⟩, others⟩
    have wrong : fault? .encoding (valueAmong values .encoding) = some .nulInEncoding := by
      simp only [valueAmong, given, Option.getD_some, fault?, checkEncoding_nul_iff.mpr nul]
    exact ofValues_of_fault? wrong others

/-- A setting is to blame for a refusal: its value is among those that are given, it is refused for
the same reason when it is given alone, and the reason begins with its key. -/
structure Culprit (values : Values) (field : Field) (value : Value) (reason : Fault) : Prop where
  given : values.find? field.key = some value
  alone : ofValues [(field.key, value)] = .error reason
  key : reason.key = field.key

theorem culprit_of_ofValues (refused : ofValues values = .error fault)
    (told : fault ≠ .nulInEncoding) :
    Culprit values fault.field (valueAmong values fault.field) fault where
  given := find?_of_fault? (fault?_field_of_ofValues refused)
  alone := ofValues_single (fault?_field_of_ofValues refused)
  key := fault.key_eq told

structure Blamed (around : Surroundings) (named : Option Path) (overrides values : Values) :
    Prop where
  culprit : ∀ fault, load around named overrides = .error fault → ¬NulEncoded values →
    ∃ field value reason, Culprit values field value reason ∧
      fault = refuse field.key value reason.message
  misnamed : NulEncoded values →
    load around named overrides =
        .error (.problem (.setting "embedded" .none "embedded null character")) ∧
      (∀ field, Field.key field ≠ "embedded") ∧ values.find? "embedded" = none ∧
      ∃ name, values.find? Field.encoding.key = some (.text name) ∧
        ofValues [(Field.encoding.key, .text name)] = .error .nulInEncoding

theorem key_ne_embedded (field : Field) : field.key ≠ "embedded" := by
  cases field <;> decide

section Loading

variable {around : Surroundings} {named : Option Path} {overrides : Values}

/-- Once values are gathered and all their keys are known, loading goes as the checks go. -/
theorem load_of_known (gathered : gather around named overrides = .ok values)
    (known : ∀ key ∈ values.keys, ∃ field, Field.key field = key) :
    load around named overrides = (ofValues values).mapError fun fault =>
      refuse fault.key ((values.find? fault.key).getD .none) fault.message := by
  have none : foreignKeys values = [] := by
    rw [List.eq_nil_iff_forall_not_mem]
    intro key foreign
    obtain ⟨there, apart⟩ := mem_foreignKeys.mp foreign
    obtain ⟨field, same⟩ := known key there
    exact apart field same
  rw [load, gathered]
  exact (check_eq values).trans (if_pos none)

/-- When gathered values are refused, the setting that is named is the one to blame, unless the
fault is a null character in the encoding; then no setting is named. -/
theorem load_blamed (gathered : gather around named overrides = .ok values)
    (known : ∀ key ∈ values.keys, ∃ field, Field.key field = key) :
    Blamed around named overrides values := by
  have checked := load_of_known gathered known
  constructor
  · intro fault failed plain
    rw [checked] at failed
    obtain ⟨reason, refused, rfl⟩ := mapError_eq_error_iff.mp failed
    have told : reason ≠ .nulInEncoding := by
      rintro rfl
      exact plain (ofValues_nul_iff.mp refused)
    have culprit := culprit_of_ofValues refused told
    refine ⟨_, _, reason, culprit, ?_⟩
    rw [culprit.key, culprit.given, Option.getD_some]
  · intro nul
    have refused := ofValues_nul_iff.mpr nul
    have absent : values.find? "embedded" = none := by
      cases found : values.find? "embedded" with
      | none => rfl
      | some v =>
        have has : values.has "embedded" = true := by rw [Ordered.has, found]; rfl
        obtain ⟨field, same⟩ := known _ (Ordered.has_eq_true_iff.mp has)
        exact absurd same (key_ne_embedded field)
    refine ⟨?_, key_ne_embedded, absent, ?_⟩
    · rw [checked, refused]
      have key : Fault.nulInEncoding.key = "embedded" := by decide
      simp only [Except.mapError, key, absent, Option.getD_none]
      rfl
    · obtain ⟨⟨name, given, there⟩, -⟩ := nul
      refine ⟨name, given, ofValues_single ?_⟩
      simp only [fault?, checkEncoding_nul_iff.mpr there]

end Loading

def refusedOverrides : Values :=
  [("normalized_id_replacement", .text "--"), ("normalized_id_max_length", .integer 9)]

theorem load_blamed_sample :
    ∃ values, gather sampleSurroundings (some sampleFile) refusedOverrides = .ok values ∧
      (∀ key ∈ values.keys, ∃ field, Field.key field = key) ∧
      Blamed sampleSurroundings (some sampleFile) refusedOverrides values ∧
      ¬NulEncoded values ∧ Culprit values .maxLength (.integer 9) .shortLength := by
  have gathered := read_sample.gather refusedOverrides
  have keys : ∀ key ∈ (sampleSources.merged refusedOverrides).keys, isKey key = true := by decide
  have known : ∀ key ∈ (sampleSources.merged refusedOverrides).keys,
      ∃ field, Field.key field = key := fun key there => isKey_iff.mp (keys key there)
  have plain : ¬NulEncoded (sampleSources.merged refusedOverrides) := by
    rintro ⟨-, others⟩
    have small : ¬(10 : Int) ≤ 9 := by decide
    exact small (others .maxLength nofun)
  exact ⟨_, gathered, known, load_blamed gathered known, plain, ⟨rfl, rfl, by decide⟩⟩

def nulProject : Surroundings where
  find path :=
    if path = ⟨"/", ["work", projectFile]⟩ then
      .file "encoding = \"a\\u0000b\"".toUTF8.toList
    else .absent .missing
  current := ⟨"/", ["work"]⟩
  account := ⟨"/", ["home"]⟩
  environment _ := none

theorem nulProject_misnamed :
    gather nulProject none [] = .ok [("encoding", .text "a\x00b")] ∧
      load nulProject none [] =
        .error (.problem (.setting "embedded" .none "embedded null character")) ∧
      ¬∃ field value reason, load nulProject none [] =
        .error (.problem (.setting (Field.key field) value reason)) := by
  have text : Toml.basicText false none ('a' :: '\\' :: 'u' :: "0000b\"".toList) =
      .ok ("a\x00b".toList, []) := by
    have null : Toml.hexChar 4 "0000b\"".toList = .ok '\x00' := by decide
    have left : "0000b\"".toList.drop 4 = ['b', '"'] := rfl
    rw [Toml.basicText_plain (by decide) (by decide), Toml.basicText_unicode null, left,
      Toml.basicText_plain (by decide) (by decide), Toml.basicText_close]
    rfl
  have parsed : Toml.parse "encoding = \"a\\u0000b\"".toList =
      .ok [("encoding", .text "a\x00b")] :=
    Toml.parse_assignment (isBareName_key .encoding) (by rintro _ ⟨⟩; rfl) (by decide)
      (Toml.readValue_of_quotedText (congrArg some text))
  have project : readFile (nulProject.current.under projectFile)
      (nulProject.find (nulProject.current.under projectFile)) =
        .ok [("encoding", .text "a\x00b")] :=
    readFile_parsed (by decide +kernel) parsed
  have gathered : gather nulProject none [] = .ok [("encoding", .text "a\x00b")] := by
    simp only [gather, bind_eq_ok_iff]
    exact ⟨_, rfl, _, rfl, _, project, _, rfl, _, rfl, rfl⟩
  have failed : load nulProject none [] =
      .error (.problem (.setting "embedded" .none "embedded null character")) := by
    have known : ∀ key ∈ ["encoding"], ∃ field, Field.key field = key := by
      intro key there
      exact ⟨.encoding, (List.mem_singleton.mp there).symm⟩
    rw [load_of_known gathered known]
    rfl
  refine ⟨gathered, failed, ?_⟩
  rintro ⟨field, value, reason, other⟩
  rw [failed] at other
  simp only [Except.error.injEq, LoadFault.problem.injEq, Problem.setting.injEq] at other
  exact key_ne_embedded field other.1.symm

end Apidoc.Settings
