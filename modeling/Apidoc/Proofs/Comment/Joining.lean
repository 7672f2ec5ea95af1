import Mathlib.Data.List.Induction
import Apidoc.Proofs.CommentFile

/-!
Fragments can be joined. Inside an element the reader remembers two things of the text behind it:
how many closing brackets it has just read, which matters if they could become the end of a section,
and whether a carriage return came last, which takes up a line feed. So a fragment that follows
another is read as it is read alone, up to a line feed, unless the two make such an end between
them.
-/
namespace Apidoc

namespace Xml

/-- A mark occurs in two texts together: the one ends in the beginning of it and the other goes on
with the rest. -/
def Straddles (mark a b : List Char) : Prop :=
  ∃ n < mark.length, 0 < n ∧ mark.take n <:+ a ∧ mark.drop n <+: b

instance (mark a b : List Char) : Decidable (Straddles mark a b) :=
  inferInstanceAs (Decidable (∃ n < mark.length, 0 < n ∧ mark.take n <:+ a ∧ mark.drop n <+: b))

theorem Content.elements_append (c d : Content) :
    (c ++ d).elements = c.elements ++ d.elements := by
  induction c with
  | empty => rfl
  | char c next ih => exact ih
  | element tag attributes inner next _ ih => exact congrArg (⟨tag, attributes, inner⟩ :: ·) ih

theorem Content.elements_reverse (c : Content) : c.reverse.elements = c.elements.reverse := by
  rw [reverse, elements_reverseOnto, elements, List.append_nil]

namespace State

variable {doctype : Doctype} {s s' : State} {c : Char} {frames gs : List Frame}
  {brackets length : Nat} {afterReturn : Bool}

/-- What is remembered after a character of text: a bracket is one more than those before it, and a
carriage return has become a line feed. -/
theorem text_of_stepText {origin : Origin} {before : Nat} {wasReturn : Bool}
    (read : s.stepText origin before wasReturn c = .ok s')
    (mode : s'.mode = .text brackets afterReturn) :
    (brackets ≠ 0 → c = ']' ∧ brackets = before + 1) ∧
      (afterReturn = true → s'.frames = addChar '\n' s.frames) := by
  simp only [stepText, here] at read
  split_ifs at read with less amp bracket closing ret feed legal
  · cases read
    cases mode
  · cases read
    cases mode
  · cases read
    cases mode
    exact ⟨fun _ => ⟨by simpa using bracket, rfl⟩, by rintro ⟨⟩⟩
  · cases read
    cases mode
    exact ⟨fun some => absurd rfl some, fun _ => rfl⟩
  · cases read
    cases mode
    exact ⟨fun some => absurd rfl some, by rintro ⟨⟩⟩
  · cases read
    cases mode
    exact ⟨fun some => absurd rfl some, by rintro ⟨⟩⟩

/-- What may be text begins with nothing to remember. -/
def Fresh (s : State) : Prop :=
  ∀ brackets afterReturn, s.mode = .text brackets afterReturn →
    brackets = 0 ∧ afterReturn = false

theorem fresh_between : (between frames).Fresh := by
  rintro _ _ ⟨⟩
  exact ⟨rfl, rfl⟩

@[simp] theorem moveTo_mode {mode : Mode} : (s.moveTo mode).mode = mode := rfl

theorem fresh_of_apart (apart : ∀ brackets afterReturn, s.mode ≠ .text brackets afterReturn) :
    s.Fresh :=
  fun brackets afterReturn mode => absurd mode (apart brackets afterReturn)

theorem fresh_of_refer
    {replace : List Char → List Char → List Frame → Except Reason (List Frame)} {target : Target}
    (referred : s.refer doctype replace target = .ok s') : s'.Fresh := by
  unfold refer within at referred
  cases target with
  | number n =>
    simp only at referred
    split at referred
    · cases referred
      exact fresh_between
    · cases referred
  | named name =>
    simp only at referred
    split at referred
    · cases referred
      exact fresh_between
    · split at referred
      · split at referred <;> cases referred
      · cases referred
      · cases referred
      · split at referred
        · cases referred
          exact fresh_between
        · cases referred

theorem fresh_of_openElement {around : Surroundings} {label : List Char}
    {attributes : List RawAttribute} {selfClosing : Bool}
    (opened : s.openElement around label attributes selfClosing = .ok (.more s')) : s'.Fresh := by
  unfold openElement within at opened
  split at opened
  · cases opened
  · simp only at opened
    split_ifs at opened <;> cases opened <;> exact fresh_between

theorem fresh_of_closeElement {base : Nat} {label : List Char}
    (closed : s.closeElement base label = .ok (.more s')) : s'.Fresh := by
  unfold closeElement within at closed
  split at closed
  · cases closed
  · split at closed
    · cases closed
    · split_ifs at closed <;> cases closed
      exact fresh_between

theorem fresh_of_stepCdata {origin : Origin} {held : Nat} {wasReturn : Bool}
    (read : s.stepCdata origin held wasReturn c = .ok s') : s'.Fresh := by
  simp only [stepCdata, here] at read
  split_ifs at read <;> cases read <;> first | exact fresh_between | exact fresh_of_apart (by simp)

theorem fresh_of_stepCdataOpening {seen : List Char}
    (read : s.stepCdataOpening seen c = .ok s') : s'.Fresh := by
  simp only [stepCdataOpening] at read
  split_ifs at read <;> cases read <;> exact fresh_of_apart (by simp)

/-- Text that comes after something else begins with nothing to remember. -/
theorem fresh_of_advance (advanced : s.advance doctype c = .ok (.more s'))
    (other : ∀ before wasReturn, s.mode ≠ .text before wasReturn) : s'.Fresh := by
  unfold advance at advanced
  cases reading : s.mode with
  | text before wasReturn => exact absurd reading (other before wasReturn)
  | reference reference =>
    simp only [step, reading, here] at advanced
    split at advanced
    · cases advanced
    · cases advanced
      exact fresh_of_apart (by simp)
    · obtain ⟨s', referred, ⟨⟩⟩ := map_eq_ok_iff.mp advanced
      exact fresh_of_refer referred
  | less =>
    simp only [step, reading, here] at advanced
    split_ifs at advanced <;> cases advanced <;> exact fresh_of_apart (by simp)
  | bang =>
    simp only [step, reading, here] at advanced
    split_ifs at advanced <;> cases advanced <;> exact fresh_of_apart (by simp)
  | aside aside =>
    simp only [step, reading, here, within] at advanced
    split at advanced
    · cases advanced
    · cases advanced
      exact fresh_of_apart (by simp)
    · split_ifs at advanced
      cases advanced
      exact fresh_between
  | cdataOpening seen =>
    simp only [step, reading] at advanced
    obtain ⟨s', read, ⟨⟩⟩ := map_eq_ok_iff.mp advanced
    exact fresh_of_stepCdataOpening read
  | cdata held wasReturn =>
    simp only [step, reading] at advanced
    obtain ⟨s', read, ⟨⟩⟩ := map_eq_ok_iff.mp advanced
    exact fresh_of_stepCdata read
  | startTag tag =>
    simp only [step, reading, here] at advanced
    split at advanced
    · cases advanced
    · cases advanced
      exact fresh_of_apart (by simp)
    · exact fresh_of_openElement advanced
  | endTag label spaced =>
    simp only [step, reading, here] at advanced
    generalize (!spaced && (if label.isEmpty then isNameStart c
      else isNameChar c || c == ':')) = more at advanced
    split_ifs at advanced
    · cases advanced
      exact fresh_of_apart (by simp)
    · cases advanced
      exact fresh_of_apart (by simp)
    · exact fresh_of_closeElement advanced

/-- A text after which brackets are remembered ends in that many of them, and after a carriage
return a line feed has been added last. -/
theorem text_of_run {text : List Char}
    (reached : (State.between frames).run doctype text = some s')
    (mode : s'.mode = .text brackets afterReturn) :
    (∃ front, text = front ++ List.replicate brackets ']') ∧
      (afterReturn = true → ∃ before, s'.frames = addChar '\n' before) := by
  -- From the end of the text: its last character decides what is remembered.
  induction text using List.reverseRecOn generalizing s' brackets afterReturn with
  | nil =>
    cases reached
    cases mode
    exact ⟨⟨[], rfl⟩, nofun⟩
  | append_singleton text c ih =>
    rw [run_append, Option.bind_eq_some_iff] at reached
    obtain ⟨s, earlier, last⟩ := reached
    obtain ⟨_, advanced, ⟨⟩⟩ := run_cons_eq_some last
    by_cases inText : ∃ before wasReturn, s.mode = .text before wasReturn
    · obtain ⟨before, wasReturn, reading⟩ := inText
      obtain ⟨⟨front, same⟩, -⟩ := ih earlier reading
      unfold advance at advanced
      simp only [step, reading] at advanced
      obtain ⟨_, read, ⟨⟩⟩ := map_eq_ok_iff.mp advanced
      obtain ⟨counted, returned⟩ := text_of_stepText read mode
      refine ⟨?_, fun was => ⟨_, returned was⟩⟩
      by_cases none : brackets = 0
      · exact ⟨text ++ [c], by simp [none]⟩
      · obtain ⟨rfl, rfl⟩ := counted none
        exact ⟨front, by rw [same, List.append_assoc, List.replicate_succ']⟩
    · have other : ∀ before wasReturn, s.mode ≠ .text before wasReturn := by
        intro before wasReturn reading
        exact inText ⟨before, wasReturn, reading⟩
      obtain ⟨rfl, rfl⟩ := fresh_of_advance advanced other _ _ mode
      exact ⟨⟨text ++ [c], by simp⟩, nofun⟩

/-- What is remembered makes no difference to a character that it does not concern. -/
theorem advance_text_eq {before wasLength : Nat} (feed : c = '\n' → afterReturn = false)
    (notBracket : c ≠ ']') (closing : c = '>' → brackets < 2 ∧ before < 2) :
    advance doctype ⟨frames, .text brackets afterReturn, length⟩ c =
      advance doctype ⟨frames, .text before false, wasLength⟩ c := by
  have unclosed : ∀ n, n = brackets ∨ n = before → ¬((c == '>' && decide (n ≥ 2)) = true) := by
    intro n which closed
    simp only [Bool.and_eq_true, beq_iff_eq, decide_eq_true_eq] at closed
    have few := closing closed.1
    omega
  have kept : (c == '\n' && afterReturn) = false := by
    by_cases same : c = '\n'
    · rw [feed same, Bool.and_false]
    · rw [beq_eq_false_iff_ne.mpr same, Bool.false_and]
  have bracket : (c == ']') = false := beq_eq_false_iff_ne.mpr notBracket
  unfold advance
  simp only [step, stepText, kept, bracket, Bool.and_false, if_neg (unclosed _ (.inl rfl)),
    if_neg (unclosed _ (.inr rfl))]
  rfl

theorem brackets_of_advance (advanced : advance doctype ⟨frames, .text brackets afterReturn, length⟩
    '>' = .ok (.more s')) : brackets < 2 := by
  by_contra many
  have closed : ('>' == '>' && decide (brackets ≥ 2)) = true := by
    rw [Bool.and_eq_true, decide_eq_true_eq]
    exact ⟨rfl, Nat.not_lt.mp many⟩
  unfold advance at advanced
  simp only [step, stepText, closed] at advanced
  cases advanced

/-- Text is read on after more brackets, or after a carriage return, as it is read after fewer and
none, if the brackets do not close a section and it is not the rest of a line end. -/
theorem run_resumed {text : List Char} {few many wasLength : Nat}
    (reached : run doctype ⟨frames, .text few false, wasLength⟩ text =
      some ⟨gs, .text brackets afterReturn, length⟩)
    {wasReturn : Bool} (feed : ∀ rest, text = '\n' :: rest → wasReturn = false)
    (clear : ∀ m rest, text = List.replicate m ']' ++ '>' :: rest → few + m < 2 → many + m < 2)
    (otherLength : Nat) :
    ∃ brackets afterReturn length,
      run doctype ⟨frames, .text many wasReturn, otherLength⟩ text =
        some ⟨gs, .text brackets afterReturn, length⟩ := by
  induction text generalizing frames few many wasLength wasReturn otherLength with
  | nil =>
    cases reached
    exact ⟨many, wasReturn, otherLength, rfl⟩
  | cons c rest ih =>
    -- A bracket keeps the two counts apart; after anything else the two states are one.
    by_cases bracket : c = ']'
    · subst bracket
      have counted : ∀ n before length, advance doctype ⟨frames, .text n before, length⟩ ']' =
          .ok (.more ⟨addChar ']' frames, .text (n + 1) false, 0⟩) := fun _ _ _ => rfl
      rw [run_cons (counted _ _ _)] at reached ⊢
      refine ih reached (fun _ _ => rfl) ?_ 0
      intro m after begins less
      have longer := clear (m + 1) after (by rw [begins]; rfl) (by omega)
      omega
    · obtain ⟨next, advanced, later⟩ := run_cons_eq_some reached
      have same : advance doctype ⟨frames, .text many wasReturn, otherLength⟩ c =
          advance doctype ⟨frames, .text few false, wasLength⟩ c := by
        refine advance_text_eq ?_ bracket ?_
        · rintro rfl
          exact feed rest rfl
        · rintro rfl
          have under := brackets_of_advance advanced
          exact ⟨clear 0 rest rfl under, under⟩
      rw [run_cons (same.trans advanced)]
      exact ⟨brackets, afterReturn, length, later⟩

end State

theorem Rehosted.eq_of_ground {ground host : Frame} {base gs : List Frame} {content : Content}
    (related : Rehosted ground host base [{ ground with content }] gs) :
    gs = { host with content := content ++ host.content } :: base := by
  obtain ⟨upper, content', grounded, rfl⟩ := related
  cases upper with
  | nil =>
    cases grounded
    rfl
  | cons top upper => cases upper <;> cases grounded

/-- Brackets at the end of a text and a text after it that goes on to the end of a section have that
end between them, unless it is in the second alone. -/
theorem Straddles.of_brackets {front rest : List Char} {k m : Nat} (many : 2 ≤ k + m)
    (less : m < 2) :
    Straddles "]]>".toList (front ++ List.replicate k ']')
      (List.replicate m ']' ++ '>' :: rest) := by
  obtain ⟨extra, rfl⟩ : ∃ extra, k = extra + (2 - m) := ⟨k - (2 - m), by omega⟩
  have halves : m = 0 ∨ m = 1 := by omega
  have begun : "]]>".toList.take (2 - m) = List.replicate (2 - m) ']' := by
    rcases halves with rfl | rfl <;> rfl
  have ended : "]]>".toList.drop (2 - m) = List.replicate m ']' ++ ['>'] := by
    rcases halves with rfl | rfl <;> rfl
  refine ⟨2 - m, Nat.lt_succ_of_le (Nat.sub_le 2 m), Nat.sub_pos_of_lt less, ?_, ?_⟩
  · rw [begun, ← List.replicate_append_replicate, ← List.append_assoc]
    exact List.suffix_append _ _
  · rw [ended]
    exact ⟨rest, List.append_cons .. |>.symm⟩

/-- A line feed that follows a carriage return is left out, and the rest is read as it is alone. -/
theorem ReadsTo.append_feed {rest : List Char} {content inner : Content} {gs : List Frame}
    {brackets length : Nat} (second : ReadsTo ('\n' :: rest) content)
    (behind : [{ bareMember with content := inner }] = addChar '\n' gs) :
    ∃ whole brackets' afterReturn length',
      State.run .blank ⟨[{ bareMember with content := inner }], .text brackets true, length⟩
          ('\n' :: rest) =
        some ⟨[{ bareMember with content := whole }], .text brackets' afterReturn, length'⟩ ∧
      whole.elements = content.elements ++ inner.elements := by
  obtain ⟨earlier, rfl⟩ : ∃ earlier, inner = .char '\n' earlier := by
    cases gs with
    | nil => cases behind
    | cons frame gs => exact ⟨frame.content, congrArg Frame.content (List.cons.inj behind).1⟩
  obtain ⟨brackets', afterReturn, length', reached⟩ := second
  have dropped : State.advance .blank
      ⟨[{ bareMember with content := .char '\n' earlier }], .text brackets true, length⟩ '\n' =
        .ok (.more (.between [{ bareMember with content := .char '\n' earlier }])) := rfl
  have added : State.advance .blank (.between [bareMember]) '\n' =
      .ok (.more (.between [{ bareMember with content := .char '\n' .empty }])) := rfl
  rw [State.run_cons added] at reached
  rw [State.run_cons dropped]
  have related : Rehosted bareMember { bareMember with content := earlier } []
      [{ bareMember with content := .char '\n' .empty }]
      [{ bareMember with content := .char '\n' earlier }] :=
    ⟨[], .char '\n' .empty, rfl, rfl⟩
  have same : bareMember.scope = { bareMember with content := earlier }.scope := rfl
  obtain ⟨gs', reached', hosted⟩ := State.run_rehosted same related reached
  cases hosted.eq_of_ground
  exact ⟨content ++ earlier, brackets', afterReturn, length', reached',
    Content.elements_append content earlier⟩

/-- Texts that are content of an element are so together, with the elements of both, unless they
have the end of a section between them. -/
theorem ReadsTo.append {a b : List Char} {c d : Content} (first : ReadsTo a c)
    (second : ReadsTo b d) (apart : ¬Straddles "]]>".toList a b) :
    ∃ whole, ReadsTo (a ++ b) whole ∧ whole.elements = d.elements ++ c.elements := by
  obtain ⟨many, wasReturn, length, reached⟩ := first
  obtain ⟨⟨front, ends⟩, returned⟩ := State.text_of_run reached rfl
  -- Only a line end that is cut in two is not read as it is alone.
  by_cases feeds : wasReturn = true ∧ ∃ rest, b = '\n' :: rest
  · obtain ⟨rfl, rest, rfl⟩ := feeds
    obtain ⟨gs, behind⟩ := returned rfl
    obtain ⟨whole, brackets, afterReturn, length', later, elements⟩ := second.append_feed behind
    exact ⟨whole, ⟨brackets, afterReturn, length', State.run_trans reached later⟩, elements⟩
  · obtain ⟨brackets, afterReturn, length', moved⟩ :=
      @ReadsTo.inside _ _ second { bareMember with content := c } rfl []
    have feed : ∀ rest, b = '\n' :: rest → wasReturn = false := by
      intro rest begins
      by_contra was
      exact feeds ⟨by simpa using was, rest, begins⟩
    have clear : ∀ m rest, b = List.replicate m ']' ++ '>' :: rest → 0 + m < 2 → many + m < 2 := by
      rintro m rest rfl less
      by_contra enough
      rw [ends] at apart
      exact apart (.of_brackets (by omega) (by omega))
    obtain ⟨_, _, _, later⟩ := State.run_resumed moved feed clear length
    exact ⟨d ++ c, ⟨_, _, _, State.run_trans reached later⟩, Content.elements_append d c⟩

end Xml

namespace Comment

open Xml (Straddles parseDocument)

structure Joined (first second whole : Comment) : Prop where
  allPassages : whole.allPassages = first.allPassages ++ second.allPassages
  passages : ∀ tag, whole.passages tag = first.passages tag ++ second.passages tag
  passage_of_first : ∀ tag, first.passages tag ≠ [] → whole.passage? tag = first.passage? tag
  passage_of_second : ∀ tag, first.passages tag = [] → whole.passage? tag = second.passage? tag

theorem passage?_eq_head? (comment : Comment) (tag : String) :
    comment.passage? tag = (comment.passages tag).head? :=
  (List.head?_filter ..).symm

theorem Joined.of_allPassages {first second whole : Comment}
    (all : whole.allPassages = first.allPassages ++ second.allPassages) :
    Joined first second whole := by
  have tagged : ∀ tag, whole.passages tag = first.passages tag ++ second.passages tag := by
    intro tag
    unfold Comment.passages
    rw [all, List.filter_append]
  refine ⟨all, tagged, ?_, ?_⟩
  · intro tag some
    rw [passage?_eq_head?, passage?_eq_head?, tagged, List.head?_append_of_ne_nil _ some]
  · intro tag none
    rw [passage?_eq_head?, passage?_eq_head?, tagged, none, List.nil_append]

/-- Two fragments that are accepted are accepted together, as the one comment after the other,
unless they have the end of a section between them. -/
theorem ofFragment_append {a b source other : String} {first second : Comment}
    (front : ofFragment a source = .ok first) (back : ofFragment b other = .ok second)
    (apart : ¬Straddles "]]>".toList a.toList b.toList) (origin : String) :
    ∃ whole, ofFragment (a ++ b) origin = .ok whole ∧ Joined first second whole := by
  obtain ⟨c, reads, rfl⟩ := ofFragment_eq_ok_iff.mp front
  obtain ⟨d, goesOn, rfl⟩ := ofFragment_eq_ok_iff.mp back
  obtain ⟨content, whole, elements⟩ := reads.append goesOn apart
  rw [← String.toList_append] at whole
  refine ⟨_, ofFragment_eq_ok_iff.mpr ⟨content, whole, rfl⟩, .of_allPassages ?_⟩
  change content.reverse.elements = c.reverse.elements ++ d.reverse.elements
  simp only [Xml.Content.elements_reverse, elements, List.reverse_append]

theorem ofFragment_of_parsed {fragment : String} {element : Xml.Element}
    (parsed : parseDocument (wrap fragment.toList) = .ok element) (source : String) :
    ofFragment fragment source = .ok ⟨element⟩ := by
  simp only [ofFragment, parsed]

def samplePassages : List Xml.Element × List Xml.Element :=
  ([⟨.plain "summary", [], .char '1' .empty⟩],
   [⟨.plain "c", [], .empty⟩, ⟨.plain "summary", [], .char '2' .empty⟩])

/-- The seam is a line end after brackets, and an angle bracket follows it. -/
theorem ofFragment_append_sample :
    ∃ first second whole,
      ofFragment "<!-- ]]> --><summary>1</summary>]]\r" fragmentSource = .ok first ∧
      ofFragment "\n><![CDATA[<c/>]]><c/><summary>2</summary>" fragmentSource = .ok second ∧
      ¬Straddles "]]>".toList "<!-- ]]> --><summary>1</summary>]]\r".toList
        "\n><![CDATA[<c/>]]><c/><summary>2</summary>".toList ∧
      ofFragment ("<!-- ]]> --><summary>1</summary>]]\r" ++
          "\n><![CDATA[<c/>]]><c/><summary>2</summary>") fragmentSource = .ok whole ∧
      Joined first second whole ∧ (first.allPassages, second.allPassages) = samplePassages ∧
      whole.allPassages = samplePassages.1 ++ samplePassages.2 := by
  have front : parseDocument (wrap "<!-- ]]> --><summary>1</summary>]]\r".toList) =
      .ok ⟨.plain "member", [], .element (.plain "summary") [] (.char '1' .empty)
        (.char ']' (.char ']' (.char '\n' .empty)))⟩ := by decide +kernel
  have back : parseDocument (wrap "\n><![CDATA[<c/>]]><c/><summary>2</summary>".toList) =
      .ok ⟨.plain "member", [], .char '\n' (.char '>' (.char '<' (.char 'c' (.char '/' (.char '>'
        (.element (.plain "c") [] .empty
          (.element (.plain "summary") [] (.char '2' .empty) .empty)))))))⟩ := by
    decide +kernel
  have apart : ¬Straddles "]]>".toList "<!-- ]]> --><summary>1</summary>]]\r".toList
      "\n><![CDATA[<c/>]]><c/><summary>2</summary>".toList := by decide +kernel
  have first := ofFragment_of_parsed front fragmentSource
  have second := ofFragment_of_parsed back fragmentSource
  obtain ⟨whole, accepted, joined⟩ := ofFragment_append first second apart fragmentSource
  exact ⟨_, _, whole, first, second, apart, accepted, joined, rfl, joined.allPassages⟩

end Comment

end Apidoc
