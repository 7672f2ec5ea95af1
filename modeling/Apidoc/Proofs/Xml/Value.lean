import Mathlib.Tactic.SplitIfs
import Apidoc.Proofs.Outcome
import Apidoc.Proofs.Text.Pieces
import Apidoc.Xml.Prolog.Subset

/-!
The values of attributes are made of characters that a document may hold, wherever the characters
come from: the tag, a number, or the replacement text of an entity.
-/
namespace Apidoc.Xml

def AllLegal (text : List Char) : Prop := ∀ c ∈ text, isLegal c = true

theorem allLegal_append {a b : List Char} (first : AllLegal a) (second : AllLegal b) :
    AllLegal (a ++ b) := by
  intro c there
  rcases List.mem_append.mp there with before | after
  · exact first c before
  · exact second c after

theorem allLegal_singleton {c : Char} (legal : isLegal c = true) : AllLegal [c] := by
  intro d there
  rw [List.mem_singleton.mp there]
  exact legal

theorem charOfNumber?_legal {n : Nat} {d : Char} (number : charOfNumber? n = some d) :
    isLegal d = true := by
  by_cases valid : n.isValidChar
  · rw [charOfNumber?, dif_pos valid] at number
    obtain ⟨legal, same⟩ := Option.ite_none_right_eq_some.mp number
    exact Option.some.inj same ▸ legal
  · rw [charOfNumber?, dif_neg valid] at number
    cases number

theorem predefined?_legal {name : List Char} {d : Char} (predefined : predefined? name = some d) :
    isLegal d = true := by
  unfold predefined? at predefined
  split_ifs at predefined <;> cases predefined <;> decide

def LegalPieces (pieces : List ValuePiece) : Prop := ∀ c, .char c ∈ pieces → isLegal c = true

theorem legalPieces_append {pieces : List ValuePiece} {piece : ValuePiece}
    (before : LegalPieces pieces) (last : ∀ c, piece = .char c → isLegal c = true) :
    LegalPieces (pieces ++ [piece]) := by
  intro c there
  rcases List.mem_append.mp there with old | new
  · exact before c old
  · exact last c (List.mem_singleton.mp new).symm

namespace ValueReader

variable {origin : Origin} {r r' : ValueReader} {offset : Nat} {c : Char}

theorem step_legal (legal : LegalPieces r.pieces) (stepped : r.step origin offset c = some r') :
    LegalPieces r'.pieces := by
  unfold step at stepped
  split at stepped
  · split at stepped
    · cases stepped
    · cases stepped
      exact legal
    · cases stepped
      exact legalPieces_append legal (by simp)
  · split_ifs at stepped with amp bad feed space
    · cases stepped
      exact legal
    · cases stepped
      exact legal
    · cases stepped
      refine legalPieces_append legal ?_
      rintro d ⟨⟩
      decide
    · cases stepped
      refine legalPieces_append legal ?_
      rintro d ⟨⟩
      simp only [Bool.or_eq_true, not_or, Bool.not_eq_true, Bool.not_eq_false'] at bad
      exact bad.2

theorem readAll_legal (legal : LegalPieces r.pieces) (offset : Nat) (text : List Char) :
    LegalPieces (r.readAll origin offset text).1 := by
  induction text generalizing r offset with
  | nil => exact legal
  | cons c rest ih =>
    rw [readAll]
    split
    · exact legal
    · next next stepped => exact ih (step_legal legal stepped) (offset + 1)

end ValueReader

theorem textOfPieces_legal {text : ValuePiece → Except TagFault (List Char)}
    {pieces : List ValuePiece} {value : List Char}
    (each : ∀ piece ∈ pieces, ∀ v, text piece = .ok v → AllLegal v)
    (done : textOfPieces text pieces = .ok value) : AllLegal value := by
  induction pieces generalizing value with
  | nil =>
    cases done
    simp [AllLegal]
  | cons piece rest ih =>
    obtain ⟨first, here, done⟩ := bind_eq_ok_iff.mp done
    obtain ⟨others, later, done⟩ := bind_eq_ok_iff.mp done
    cases done
    refine allLegal_append (each piece List.mem_cons_self first here) (ih ?_ later)
    intro p there
    exact each p (List.mem_cons_of_mem piece there)

theorem ValuePiece.text_legal {doctype : Doctype}
    {replacement : List Char → List Char → Except Reason (List Char)}
    (replaced : ∀ name text v, replacement name text = .ok v → AllLegal v)
    {piece : ValuePiece} (legal : ∀ c, piece = .char c → isLegal c = true) {v : List Char}
    (done : piece.text doctype replacement = .ok v) : AllLegal v := by
  cases piece with
  | char c =>
    cases done
    exact allLegal_singleton (legal c rfl)
  | reference target offset =>
    cases target with
    | number n =>
      simp only [text] at done
      split at done
      · cases done
      · next c number =>
        cases done
        exact allLegal_singleton (charOfNumber?_legal number)
    | named name =>
      simp only [text] at done
      split at done
      · next c predefined =>
        cases done
        exact allLegal_singleton (predefined?_legal predefined)
      · split at done
        · split_ifs at done
          cases done
          simp [AllLegal]
        · cases done
        · cases done
        · exact replaced name _ v (mapError_eq_ok_iff.mp done)

theorem replacementText_legal (doctype : Doctype) (depth : Nat) (active : List (List Char))
    (name text v : List Char) (done : replacementText doctype depth active name text = .ok v) :
    AllLegal v := by
  induction depth generalizing active name text v with
  | zero => cases done
  | succ depth ih =>
    rw [replacementText] at done
    split_ifs at done
    obtain ⟨value, read, done⟩ := bind_eq_ok_iff.mp done
    have legal : LegalPieces (ValueReader.start.readAll .entity 0 text).1 :=
      ValueReader.readAll_legal (by simp [LegalPieces, ValueReader.start]) 0 text
    have same : value = v := by
      split_ifs at done
      · cases done
      · exact Except.ok.inj done
    subst same
    refine textOfPieces_legal ?_ (mapError_eq_ok_iff.mp read)
    intro piece there w whole
    refine ValuePiece.text_legal (ih (name :: active)) ?_ whole
    rintro c rfl
    exact legal c there

theorem valueText_legal {doctype : Doctype} {active : List (List Char)} {pieces : List ValuePiece}
    {value : List Char} (legal : LegalPieces pieces)
    (done : valueText doctype active pieces = .ok value) : AllLegal value := by
  refine textOfPieces_legal ?_ done
  intro piece there w whole
  refine ValuePiece.text_legal (replacementText_legal doctype _ active) ?_ whole
  rintro c rfl
  exact legal c there

theorem collapseSpaces_legal {s : List Char} (legal : AllLegal s) :
    AllLegal (collapseSpaces s) := by
  intro c there
  rcases Text.mem_intercalate there with space | ⟨piece, listed, inside⟩
  · rw [List.mem_singleton.mp space]
    decide
  · exact legal c (Text.mem_of_mem_piecesBetween listed inside)

theorem Prolog.defaultValue_legal {survey : Prolog.Survey} {plain : Bool} {chars value : List Char}
    {left : Nat} (done : Prolog.defaultValue survey plain chars left = .ok value) :
    AllLegal value := by
  unfold defaultValue at done
  obtain ⟨text, read, done⟩ := bind_eq_ok_iff.mp done
  have legal : LegalPieces (ValueReader.start.readAll .document 1 chars).1 :=
    ValueReader.readAll_legal (by simp [LegalPieces, ValueReader.start]) 1 chars
  have text_legal := valueText_legal legal (mapError_eq_ok_iff.mp read)
  simp only at done
  split at done
  · cases done
  · cases done
    split
    · exact text_legal
    · exact collapseSpaces_legal text_legal

end Apidoc.Xml
