import Apidoc.Proofs.Outcome
import Apidoc.Settings

/-!
Which values are settings. The checks go through the values in a fixed order and stop at the first
fault; whether they pass depends on each setting's own value alone, and what comes out are the
values that went in.
-/
namespace Apidoc

theorem Verbosity.ofWord?_eq_some_iff {word : String} {v : Verbosity} :
    ofWord? word = some v ↔ v.word = word := by
  constructor
  · intro found
    simpa using List.find?_some found
  · rintro rfl
    cases v <;> rfl

namespace Settings

def get (s : Settings) : Field → Value
  | .encoding => .text s.encoding
  | .replacement => .text s.replacement
  | .maxLength => .integer s.maxLength
  | .lowercase => .flag s.lowercase
  | .skipUnresolved => .flag s.skipUnresolved
  | .verbosity => .text s.verbosity.word

def Allowed : Field → Value → Prop
  | .encoding, .text name =>
    name ≠ "" ∧ '\x00' ∉ name.toList ∧ (Encoding.named? name).isSome
  | .replacement, .text s => s.length ≤ 1
  | .maxLength, .integer n => 10 ≤ n
  | .lowercase, .flag _ => True
  | .skipUnresolved, .flag _ => True
  | .verbosity, .text word => word ∈ ["quiet", "normal", "verbose"]
  | _, _ => False

def valueAmong (values : Values) (field : Field) : Value :=
  (values.find? field.key).getD (({} : Settings).get field)

variable {values : Values} {field : Field} {s : Settings}

theorem textOf_eq_ok_iff {default text : String} :
    textOf values field default = .ok text ↔
      (values.find? field.key).getD (.text default) = .text text := by
  unfold textOf
  cases values.find? field.key with
  | none => simp
  | some v => cases v <;> simp

theorem integerOf_eq_ok_iff {default n : Int} :
    integerOf values field default = .ok n ↔
      (values.find? field.key).getD (.integer default) = .integer n := by
  unfold integerOf
  cases values.find? field.key with
  | none => simp
  | some v => cases v <;> simp

theorem flagOf_eq_ok_iff {default b : Bool} :
    flagOf values field default = .ok b ↔
      (values.find? field.key).getD (.flag default) = .flag b := by
  unfold flagOf
  cases values.find? field.key with
  | none => simp
  | some v => cases v <;> simp

theorem checkEncoding_eq_ok_iff {name : String} :
    checkEncoding name = .ok () ↔ Allowed .encoding (.text name) := by
  unfold checkEncoding Allowed
  split
  · next empty => simp [String.isEmpty_iff.mp empty]
  · next named =>
    rw [String.isEmpty_iff] at named
    split
    · next null =>
      rw [List.contains_iff_mem] at null
      simp [null]
    · next plain =>
      rw [List.contains_iff_mem] at plain
      split
      · next unknown =>
        rw [Option.isNone_iff_eq_none] at unknown
        simp [unknown]
      · next known =>
        rw [Option.isNone_iff_eq_none, ← Ne, Option.ne_none_iff_isSome] at known
        exact iff_of_true rfl ⟨named, plain, known⟩

theorem ofValues_ok (accepted : ofValues values = .ok s) (field : Field) :
    s.get field = valueAmong values field ∧ Allowed field (s.get field) := by
  simp only [ofValues, bind_eq_ok_iff, textOf_eq_ok_iff, integerOf_eq_ok_iff, flagOf_eq_ok_iff]
    at accepted
  obtain ⟨encoding, encodingIs, replacement, replacementIs, maxLength, maxLengthIs, lowercase,
    lowercaseIs, skipUnresolved, skipUnresolvedIs, word, wordIs, checks⟩ := accepted
  split at checks
  · cases checks
  · next long =>
    split at checks
    · cases checks
    · next short =>
      cases found : Verbosity.ofWord? word with
      | none => rw [found] at checks; cases checks
      | some verbosity =>
        simp only [found, bind_eq_ok_iff] at checks
        obtain ⟨_, known, made⟩ := checks
        cases made
        have spelled := Verbosity.ofWord?_eq_some_iff.mp found
        cases field with
        | encoding => exact ⟨encodingIs.symm, checkEncoding_eq_ok_iff.mp known⟩
        | replacement => exact ⟨replacementIs.symm, Nat.le_of_not_lt short⟩
        | maxLength => exact ⟨maxLengthIs.symm, Int.not_lt.mp long⟩
        | lowercase => exact ⟨lowercaseIs.symm, trivial⟩
        | skipUnresolved => exact ⟨skipUnresolvedIs.symm, trivial⟩
        | verbosity =>
          refine ⟨?_, by cases verbosity <;> simp [get, Allowed, Verbosity.word]⟩
          rw [get, spelled]
          exact wordIs.symm

theorem ofValues_of_allowed
    (given : ∀ field, s.get field = valueAmong values field ∧ Allowed field (s.get field)) :
    ofValues values = .ok s := by
  have encoding : textOf values .encoding ({} : Settings).encoding = .ok s.encoding :=
    textOf_eq_ok_iff.mpr (given .encoding).1.symm
  have replacement : textOf values .replacement ({} : Settings).replacement = .ok s.replacement :=
    textOf_eq_ok_iff.mpr (given .replacement).1.symm
  have maxLength : integerOf values .maxLength ({} : Settings).maxLength = .ok s.maxLength :=
    integerOf_eq_ok_iff.mpr (given .maxLength).1.symm
  have lowercase : flagOf values .lowercase ({} : Settings).lowercase = .ok s.lowercase :=
    flagOf_eq_ok_iff.mpr (given .lowercase).1.symm
  have skipUnresolved :
      flagOf values .skipUnresolved ({} : Settings).skipUnresolved = .ok s.skipUnresolved :=
    flagOf_eq_ok_iff.mpr (given .skipUnresolved).1.symm
  have word : textOf values .verbosity ({} : Settings).verbosity.word = .ok s.verbosity.word :=
    textOf_eq_ok_iff.mpr (given .verbosity).1.symm
  have long : ¬s.maxLength < leastLength := Int.not_lt.mpr (given .maxLength).2
  have short : ¬s.replacement.length > 1 := Nat.not_lt.mpr (given .replacement).2
  have known : checkEncoding s.encoding = .ok () :=
    checkEncoding_eq_ok_iff.mpr (given .encoding).2
  have verbosity : Verbosity.ofWord? s.verbosity.word = some s.verbosity :=
    Verbosity.ofWord?_eq_some_iff.mpr rfl
  simp only [ofValues, bind_eq_ok_iff]
  refine ⟨_, encoding, _, replacement, _, maxLength, _, lowercase, _, skipUnresolved, _, word, ?_⟩
  rw [if_neg long, if_neg short, verbosity]
  simp only [bind_eq_ok_iff]
  exact ⟨(), known, rfl⟩

theorem Allowed.exists_get {v : Value} (allowed : Allowed field v) :
    ∃ s : Settings, s.get field = v := by
  cases field with
  | encoding =>
    cases v with
    | text name => exact ⟨{ encoding := name }, rfl⟩
    | _ => cases allowed
  | replacement =>
    cases v with
    | text replacement => exact ⟨{ replacement }, rfl⟩
    | _ => cases allowed
  | maxLength =>
    cases v with
    | integer maxLength => exact ⟨{ maxLength }, rfl⟩
    | _ => cases allowed
  | lowercase =>
    cases v with
    | flag lowercase => exact ⟨{ lowercase }, rfl⟩
    | _ => cases allowed
  | skipUnresolved =>
    cases v with
    | flag skipUnresolved => exact ⟨{ skipUnresolved }, rfl⟩
    | _ => cases allowed
  | verbosity =>
    cases v with
    | text word =>
      have one : word = "quiet" ∨ word = "normal" ∨ word = "verbose" := by
        simpa [Allowed] using allowed
      rcases one with rfl | rfl | rfl
      · exact ⟨{ verbosity := .quiet }, rfl⟩
      · exact ⟨{ verbosity := .normal }, rfl⟩
      · exact ⟨{ verbosity := .verbose }, rfl⟩
    | _ => cases allowed

/-- Values that are allowed, one for each setting, are those of some settings. -/
theorem exists_get {value : Field → Value} (allowed : ∀ field, Allowed field (value field)) :
    ∃ s : Settings, ∀ field, s.get field = value field := by
  obtain ⟨a, encoding⟩ := (allowed .encoding).exists_get
  obtain ⟨b, replacement⟩ := (allowed .replacement).exists_get
  obtain ⟨c, maxLength⟩ := (allowed .maxLength).exists_get
  obtain ⟨d, lowercase⟩ := (allowed .lowercase).exists_get
  obtain ⟨e, skipUnresolved⟩ := (allowed .skipUnresolved).exists_get
  obtain ⟨f, verbosity⟩ := (allowed .verbosity).exists_get
  refine ⟨⟨a.encoding, b.replacement, c.maxLength, d.lowercase, e.skipUnresolved, f.verbosity⟩, ?_⟩
  intro field
  cases field <;> assumption

/-- Values are accepted exactly when each setting has an allowed one. -/
theorem exists_ofValues_iff :
    (∃ s, ofValues values = .ok s) ↔ ∀ field, Allowed field (valueAmong values field) := by
  constructor
  · rintro ⟨s, accepted⟩ field
    obtain ⟨same, allowed⟩ := ofValues_ok accepted field
    rw [← same]
    exact allowed
  · intro allowed
    obtain ⟨s, same⟩ := exists_get allowed
    exact ⟨s, ofValues_of_allowed fun field => ⟨same field, by rw [same]; exact allowed field⟩⟩

end Settings

end Apidoc
