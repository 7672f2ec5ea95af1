import Apidoc.Proofs.Outcome
import Apidoc.Proofs.Text.Stretch
import Apidoc.Toml.Document
import Mathlib.Data.List.TakeWhile

/-!
Documents of one line, `name = value`, which give one key one value. The name needs no quotation
marks, and any value will do that is read to its end, such as a text in quotation marks.
-/
namespace Apidoc.Toml

variable {name written text rest : List Char} {value : Value}

theorem endLike_append (front back : List Char) : endLike (front ++ back) back = back := by
  simp [endLike]

theorem skipSpaces_of_head {s : List Char} (first : ∀ c ∈ s.head?, isSpace c = false) :
    skipSpaces s = s := by
  cases s with
  | nil => rfl
  | cons c s =>
    have apart : isSpace c = false := first c rfl
    simp [skipSpaces, apart]

theorem joinLineEnds_of_not_mem (noReturn : '\r' ∉ text) : joinLineEnds text = text := by
  induction text with
  | nil => rfl
  | cons c text ih =>
    rw [List.mem_cons, not_or] at noReturn
    rw [joinLineEnds, ih noReturn.2]
    rintro more rfl
    exact absurd rfl noReturn.1

structure IsBareName (name : List Char) : Prop where
  some : name ≠ []
  bare : ∀ c ∈ name, isBare c = true

namespace IsBareName

variable (named : IsBareName name)

include named

theorem ne {c mark : Char} (there : c ∈ name) (other : isBare mark = false) : c ≠ mark := by
  rintro rfl
  rw [named.bare c there] at other
  cases other

theorem not_mem {mark : Char} (other : isBare mark = false) : mark ∉ name :=
  fun there => named.ne there other rfl

theorem keyPart (stop : ∀ c ∈ rest.head?, isBare c = false) :
    keyPart (name ++ rest) = .ok (String.ofList name, rest) := by
  have first {mark : Char} (other : isBare mark = false) (after : List Char) :
      name ++ rest ≠ mark :: after := by
    obtain ⟨c, more, rfl⟩ := List.exists_cons_of_ne_nil named.some
    rintro same
    exact named.not_mem other (List.head_eq_of_cons_eq same ▸ List.mem_cons_self)
  unfold Toml.keyPart
  split
  · next after same => exact absurd same (first (by decide) after)
  · next after same => exact absurd same (first (by decide) after)
  · simp only [Text.takeWhile_stretch named.bare stop, Text.dropWhile_stretch named.bare stop,
      List.isEmpty_eq_false_iff.mpr named.some, Bool.false_eq_true, if_false]

theorem readKeyEquals (first : ∀ c ∈ written.head?, isSpace c = false) :
    readKeyEquals (name ++ ' ' :: '=' :: ' ' :: written) =
      .ok ([String.ofList name], written) := by
  have value : skipSpaces (' ' :: written) = written := skipSpaces_of_head first
  unfold Toml.readKeyEquals
  refine bind_eq_ok_iff.mpr ⟨([String.ofList name], '=' :: ' ' :: written), ?_, ?_⟩
  · rw [readKey]
    refine bind_eq_ok_iff.mpr ⟨_, named.keyPart (by simp; decide), ?_⟩
    have after : skipSpaces (endLike (name ++ ' ' :: '=' :: ' ' :: written)
        (' ' :: '=' :: ' ' :: written)) = '=' :: ' ' :: written := by
      rw [endLike_append]
      rfl
    simp only
    split
    · next more dotted => cases after.symm.trans dotted
    · rw [after]
      rfl
  · simp only [value]
    rfl

end IsBareName

theorem readStatement_assignment (named : IsBareName name)
    (first : ∀ c ∈ written.head?, isSpace c = false) (read : readValue written = .ok (value, [])) :
    ∃ d, readStatement {} (name ++ ' ' :: '=' :: ' ' :: written) = .ok (d, []) ∧
      d.entries = [(String.ofList name, value)] := by
  obtain ⟨c, more, rfl⟩ := List.exists_cons_of_ne_nil named.some
  have start : startsKey c = true := by
    rw [startsKey, named.bare c List.mem_cons_self]
    rfl
  have plain {mark : Char} (other : isBare mark = false) : (c == mark) = false :=
    beq_eq_false_iff_ne.mpr (named.ne List.mem_cons_self other)
  have newline : (c == '\n' || c == '#') = false := by
    rw [plain (by decide), plain (by decide)]
    rfl
  have assigned : ∃ d, ({} : Draft).assign [String.ofList (c :: more)] value [] = .ok d ∧
      d.entries = [(String.ofList (c :: more), value)] := ⟨_, rfl, rfl⟩
  obtain ⟨d, made, entries⟩ := assigned
  refine ⟨d, ?_, entries⟩
  unfold readStatement
  simp only [List.cons_append, newline, start, Bool.false_eq_true, if_false, if_true]
  refine bind_eq_ok_iff.mpr ⟨_, named.readKeyEquals first, ?_⟩
  refine bind_eq_ok_iff.mpr ⟨_, read, ?_⟩
  exact bind_eq_ok_iff.mpr ⟨_, made, rfl⟩

theorem parse_assignment (named : IsBareName name) (first : ∀ c ∈ written.head?, isSpace c = false)
    (noReturn : '\r' ∉ written) (read : readValue written = .ok (value, [])) :
    parse (name ++ ' ' :: '=' :: ' ' :: written) = .ok [(String.ofList name, value)] := by
  have unified : joinLineEnds (name ++ ' ' :: '=' :: ' ' :: written) =
      name ++ ' ' :: '=' :: ' ' :: written := by
    have apart : '\r' ∉ name := named.not_mem (by decide)
    apply joinLineEnds_of_not_mem
    simp [apart, noReturn]
  obtain ⟨d, stated, entries⟩ := readStatement_assignment named first read
  have statements : readStatements {} (name ++ ' ' :: '=' :: ' ' :: written) = .ok d := by
    have start : skipSpaces (name ++ ' ' :: '=' :: ' ' :: written) =
        name ++ ' ' :: '=' :: ' ' :: written := by
      apply skipSpaces_of_head
      obtain ⟨c, more, rfl⟩ := List.exists_cons_of_ne_nil named.some
      rintro _ ⟨⟩
      have plain {mark : Char} (other : isBare mark = false) : (c == mark) = false :=
        beq_eq_false_iff_ne.mpr (named.ne List.mem_cons_self other)
      rw [isSpace, plain (by decide), plain (by decide)]
      rfl
    rw [readStatements, start]
    refine bind_eq_ok_iff.mpr ⟨_, stated, ?_⟩
    refine bind_eq_ok_iff.mpr ⟨[], rfl, ?_⟩
    have finished : endLike (name ++ ' ' :: '=' :: ' ' :: written) [] = [] := by simp [endLike]
    split
    · rfl
    · next more front => cases finished.symm.trans front
    · next unfinished _ => exact absurd finished unfinished
  simp only [parse, unified, statements, entries]

theorem readValue_of_quotedText {s : List Char} (quoted : quotedText? s = some (.ok (text, rest))) :
    readValue s = .ok (.text (String.ofList text), rest) := by
  unfold readValue
  simp only [quoted]
  rfl

/-- A text in single quotation marks is read as it stands. -/
theorem readValue_literal (plain : ∀ c ∈ text, c ≠ '\'' ∧ isForbidden c = false) :
    readValue ('\'' :: (text ++ ['\''])) = .ok (.text (String.ofList text), []) := by
  have cut : cutAt? ['\''] (text ++ ['\'']) = some (text, []) := by
    induction text with
    | nil => rfl
    | cons c text ih =>
      have other : '\'' ≠ c := (plain c List.mem_cons_self).1.symm
      have later := ih fun c there => plain c (List.mem_cons_of_mem _ there)
      simp [cutAt?, later, other]
  have allowed : text.dropWhile (!isForbidden ·) = [] := by
    rw [List.dropWhile_eq_nil_iff]
    intro c there
    rw [(plain c there).2]
    rfl
  have read : literalText "'" isForbidden (text ++ ['\'']) = .ok (text, []) := by
    have mark : "'".toList = ['\''] := rfl
    rw [literalText, mark, cut]
    simp only [checkStretch, allowed]
    rfl
  have quoted : quotedText? ('\'' :: (text ++ ['\''])) = some (.ok (text, [])) := by
    rw [← read]
    cases text with
    | nil => rfl
    | cons c text =>
      have other : c ≠ '\'' := (plain c List.mem_cons_self).1
      unfold quotedText?
      simp [other]
  exact readValue_of_quotedText quoted

section Basic

variable {c : Char} {s : List Char}

theorem basicText_close (s : List Char) : basicText false none ('"' :: s) = .ok ([], s) := by
  rw [basicText.eq_def]
  simp

theorem basicText_plain (other : c ≠ '"' ∧ c ≠ '\\') (allowed : isForbidden c = false) :
    basicText false none (c :: s) =
      (basicText false none s).map fun (text, after) => (c :: text, after) := by
  rw [basicText.eq_def]
  simp [other, allowed]

theorem basicText_unicode (read : hexChar 4 s = .ok c) :
    basicText false none ('\\' :: 'u' :: s) =
      (basicText false none (s.drop 4)).map fun (text, after) => (c :: text, after) := by
  rw [basicText.eq_def]
  simp [hexLength?, read]
  rfl

end Basic

end Apidoc.Toml
