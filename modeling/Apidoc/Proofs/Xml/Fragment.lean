import Apidoc.Comment
import Apidoc.Proofs.Xml.Context
import Apidoc.Proofs.Xml.Epilog

/-!
Which texts are the content of an element. A fragment is accepted inside a member element exactly
when it is read from the start tag of the element to text with nothing else open, so it can be put
into any element without being read differently.
-/
namespace Apidoc.Xml

def bareMember : Frame := ⟨"member".toList, .plain "member", [], .outermost, .empty⟩

theorem run_bareMember :
    State.initial.run .blank "<member>".toList = some (.between [bareMember]) := by
  rfl

theorem readRoot_endMember {frame : Frame} (matching : frame.label = "member".toList)
    (brackets : Nat) (afterReturn : Bool) (length : Nat) :
    readRoot .blank ⟨[frame], .text brackets afterReturn, length⟩ "</member>".toList =
      .ok (frame.close, []) := by
  obtain ⟨label, tag, attributes, scope, content⟩ := frame
  cases matching
  rfl

theorem readRoot_error {s : State} {c : Char} {rest : List Char}
    (stuck : ∃ fault, s.advance .blank c = .error fault) (read : Element × List Char) :
    readRoot .blank s (c :: rest) ≠ .ok read := by
  obtain ⟨fault, stuck⟩ := stuck
  rw [readRoot, stuck]
  intro done
  cases done

theorem readRoot_more {s s' : State} {c : Char} (advanced : s.advance .blank c = .ok (.more s'))
    (rest : List Char) : readRoot .blank s (c :: rest) = readRoot .blank s' rest := by
  rw [readRoot, advanced]

variable {frames : List Frame} {length : Nat}

theorem readRoot_cdataOpening {seen : List Char} (text : List Char)
    (less : '<' ∈ seen ++ text.take 1) (read : Element × List Char) :
    readRoot .blank ⟨frames, .cdataOpening seen, length⟩ text ≠ .ok read := by
  induction text generalizing seen length with
  | nil =>
    intro done
    cases done
  | cons c rest ih =>
    have unlike : (seen ++ [c] == cdataMarker) = false := by
      refine beq_eq_false_iff_ne.mpr ?_
      intro same
      have inside : '<' ∈ cdataMarker := same ▸ less
      exact absurd inside (by decide)
    by_cases short : utf8Size (seen ++ [c]) < cdataMarker.length
    · have advanced : State.advance .blank ⟨frames, .cdataOpening seen, length⟩ c =
          .ok (.more ⟨frames, .cdataOpening (seen ++ [c]), length + 1⟩) := by
        simp only [State.advance, State.step, State.stepCdataOpening, if_pos short]
        rfl
      rw [readRoot_more advanced]
      exact ih (List.mem_append_left _ less)
    · refine readRoot_error ?_ read
      simp only [State.advance, State.step, State.stepCdataOpening, if_neg short, unlike]
      exact ⟨_, rfl⟩

theorem Reference.step_less (reference : Reference) : reference.step '<' = none := by
  cases reference <;> rfl

theorem Label.step_less (label : Label) :
    label.step '<' = .error () ∨ label.step '<' = .ok none := by
  obtain ⟨chars, colon⟩ := label
  cases colon
  · exact Or.inr rfl
  · exact Or.inl rfl
  · exact Or.inr rfl

/-- An angle bracket cannot stand in a start tag, except where it would be a quotation mark. -/
theorem Tag.step_less (origin : Origin) (tag : Tag) (offset : Nat) :
    tag.step origin offset '<' = none ∨
      ∃ next, tag.step origin offset '<' = some (.more next) ∧ next.part = .valueEnd := by
  obtain ⟨label, attributes, part⟩ := tag
  cases part with
  | label label =>
    rcases label.step_less with stepped | stepped
    · exact Or.inl (by simp only [step, stepped])
    · exact Or.inl (by simp only [step, stepped]; rfl)
  | gap => exact Or.inl rfl
  | attributeLabel label start =>
    rcases label.step_less with stepped | stepped
    · exact Or.inl (by simp only [step, stepped])
    · exact Or.inl (by simp only [step, stepped]; rfl)
  | equals label start => exact Or.inl rfl
  | quote label start => exact Or.inl rfl
  | value label start quote reader =>
    by_cases ends : ('<' == quote && reader.mayEnd) = true
    · exact Or.inr ⟨_, by simp only [step, if_pos ends]; rfl, rfl⟩
    · refine Or.inl ?_
      obtain ⟨pieces, pending, afterReturn⟩ := reader
      cases pending with
      | none => simp only [step, if_neg ends]; rfl
      | some pending => simp only [step, if_neg ends, ValueReader.step, Reference.step_less]; rfl
  | valueEnd => exact Or.inl rfl
  | slash => exact Or.inl rfl

/-- Only in text is a whole end tag read as one. -/
theorem mode_of_readRoot_endTag {mode : Mode} {read : Element × List Char}
    (done : readRoot .blank ⟨frames, mode, length⟩ "</member>".toList = .ok read) :
    ∃ brackets afterReturn, mode = .text brackets afterReturn := by
  have bracket : "</member>".toList = '<' :: "/member>".toList := rfl
  rw [bracket] at done
  cases mode with
  | text brackets afterReturn => exact ⟨brackets, afterReturn, rfl⟩
  | reference reference =>
    refine absurd done (readRoot_error ⟨⟨.invalidToken, 0⟩, ?_⟩ read)
    simp only [State.advance, State.step, Reference.step_less]
    rfl
  | less => cases done
  | bang => cases done
  | aside aside =>
    cases aside with
    | commentStart => cases done
    | comment dashes =>
      by_cases ending : dashes ≥ 2
      · refine absurd done (readRoot_error ⟨⟨.invalidToken, 0⟩, ?_⟩ read)
        simp only [State.advance, State.step, Aside.step, if_pos ending]
        rfl
      · have advanced : State.advance .blank ⟨frames, .aside (.comment dashes), length⟩ '<' =
            .ok (.more ⟨frames, .aside (.comment 0), length + 1⟩) := by
          simp only [State.advance, State.step, Aside.step, if_neg ending]
          rfl
        rw [readRoot_more advanced] at done
        cases done
    | target name =>
      cases name with
      | nil => cases done
      | cons c name =>
        refine absurd done (readRoot_error ⟨⟨.invalidToken, 0⟩, ?_⟩ read)
        cases reserved : isReservedTarget (c :: name) <;>
          simp only [State.advance, State.step, Aside.step, reserved] <;> rfl
    | targetEnd name => cases done
    | instruction name afterMark => cases afterMark <;> cases done
  | cdataOpening seen => exact absurd done (readRoot_cdataOpening _ (by simp) read)
  | cdata brackets afterReturn =>
    have advanced : State.advance .blank ⟨frames, .cdata brackets afterReturn, length⟩ '<' =
        .ok (.more ⟨addChar '<' (Nat.repeat (addChar ']') brackets frames), .cdata 0 false, 0⟩) :=
      rfl
    rw [readRoot_more advanced] at done
    cases done
  | startTag tag =>
    rcases Tag.step_less .document tag length with stuck | ⟨⟨label, attributes, part⟩, stepped, ⟨⟩⟩
    · refine absurd done (readRoot_error ⟨⟨.invalidToken, 0⟩, ?_⟩ read)
      have stuck : tag.step (Surroundings.document .blank).origin length '<' = none := stuck
      simp only [State.advance, State.step, stuck]
      rfl
    · have stepped : tag.step (Surroundings.document .blank).origin length '<' =
          some (.more ⟨label, attributes, .valueEnd⟩) := stepped
      have advanced : State.advance .blank ⟨frames, .startTag tag, length⟩ '<' =
          .ok (.more ⟨frames, .startTag ⟨label, attributes, .valueEnd⟩, length + 1⟩) := by
        simp only [State.advance, State.step, stepped]
        rfl
      rw [readRoot_more advanced] at done
      cases done
  | endTag label spaced => cases spaced <;> cases label <;> cases done

theorem readRoot_endMember_eq_ok {brackets : Nat} {afterReturn : Bool} {root : Element}
    {after : List Char}
    (done : readRoot .blank ⟨frames, .text brackets afterReturn, length⟩ "</member>".toList =
      .ok (root, after)) :
    ∃ frame, frames = [frame] ∧ root = frame.close := by
  have tag : State.run .blank ⟨frames, .text brackets afterReturn, length⟩ "</member".toList =
      some ⟨frames, .endTag "member".toList false, 8⟩ := rfl
  have split : "</member>".toList = "</member".toList ++ ['>'] := rfl
  rw [split, readRoot_run tag, readRoot] at done
  split at done
  · cases done
  · cases done
  · next root' advanced =>
    cases done
    cases State.advance_moved advanced with
    | emptyRoot tag label attributes opening reading => cases reading
    | closesRoot label spaced frame reading last innermost => exact ⟨frame, innermost, rfl⟩

def ReadsTo (text : List Char) (content : Content) : Prop :=
  ∃ brackets afterReturn length, (State.between [bareMember]).run .blank text =
    some ⟨[{ bareMember with content }], .text brackets afterReturn, length⟩

theorem parseDocument_member {text : List Char} {root : Element} :
    parseDocument (Comment.wrap text) = .ok root ↔
      ∃ after, readRoot .blank .initial ("<member>".toList ++ text ++ "</member>".toList) =
          .ok (root, after) ∧ checkEpilog after = .ok () :=
  parseDocument_root (c := 'm') rfl ("ember>".toList ++ text ++ "</member>".toList)

theorem parseDocument_wrap {text : List Char} {root : Element} :
    parseDocument (Comment.wrap text) = .ok root ↔
      ∃ content, ReadsTo text content ∧ root = ⟨.plain "member", [], content.reverse⟩ := by
  rw [parseDocument_member]
  constructor
  · rintro ⟨after, done, checked⟩
    rcases readRoot_append done with ⟨rest, rfl⟩ | ⟨s', reached, closed⟩
    · have ends : rest ++ "</member>".toList = (rest ++ "</membe".toList) ++ ['r', '>'] := by
        rw [List.append_assoc]
        rfl
      rw [ends] at checked
      exact absurd checked (checkEpilog_unended _)
    · rw [State.run_append, run_bareMember] at reached
      obtain ⟨frames, mode, length⟩ := s'
      obtain ⟨brackets, afterReturn, rfl⟩ := mode_of_readRoot_endTag closed
      obtain ⟨frame, rfl, rfl⟩ := readRoot_endMember_eq_ok closed
      obtain ⟨_, -, upper, content, grounded, -⟩ :=
        State.run_rehosted rfl (Rehosted.refl bareMember bareMember []) reached
      cases upper with
      | nil =>
        cases grounded
        exact ⟨content, ⟨brackets, afterReturn, length, reached⟩, rfl⟩
      | cons top upper =>
        cases upper <;> cases grounded
  · rintro ⟨content, ⟨brackets, afterReturn, length, reached⟩, rfl⟩
    refine ⟨[], ?_, checkEpilog.eq_1⟩
    have whole := State.run_trans run_bareMember reached
    rw [readRoot_run whole]
    exact readRoot_endMember rfl brackets afterReturn length

theorem ReadsTo.inside {text : List Char} {content : Content} (reads : ReadsTo text content)
    {host : Frame} (same : host.scope = .outermost) (base : List Frame) :
    ∃ brackets afterReturn length, (State.between (host :: base)).run .blank text =
      some ⟨{ host with content := content ++ host.content } :: base,
        .text brackets afterReturn, length⟩ := by
  obtain ⟨brackets, afterReturn, length, reached⟩ := reads
  obtain ⟨gs, reached', upper, content', grounded, hosted⟩ :=
    State.run_rehosted same.symm (Rehosted.refl bareMember host base) reached
  refine ⟨brackets, afterReturn, length, ?_⟩
  cases upper with
  | nil =>
    cases grounded
    subst hosted
    exact reached'
  | cons top upper =>
    cases upper <;> cases grounded

end Apidoc.Xml

namespace Apidoc.Comment

open Xml (ReadsTo)

theorem ofFragment_eq_ok_iff {fragment source : String} {comment : Comment} :
    ofFragment fragment source = .ok comment ↔
      ∃ content, ReadsTo fragment.toList content ∧
        comment = ⟨⟨.plain "member", [], content.reverse⟩⟩ := by
  obtain ⟨element⟩ := comment
  have parsed : ofFragment fragment source = .ok ⟨element⟩ ↔
      Xml.parseDocument (wrap fragment.toList) = .ok element := by
    unfold ofFragment
    simp only
    split
    · next other read => simp [read]
    · next fault read => simp [read]
  rw [parsed, Xml.parseDocument_wrap]
  simp

end Apidoc.Comment
