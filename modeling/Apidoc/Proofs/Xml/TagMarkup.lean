import Mathlib.Data.List.Forall2
import Apidoc.Proofs.Xml.Name
import Apidoc.Proofs.Xml.Run
import Apidoc.Proofs.Xml.Step
import Apidoc.Xml.Markup

/-!
Written tags are read back: the labels as they are, and each value as the text it was before it was
escaped.
-/
namespace Apidoc.Xml

namespace Label

def run : Label → List Char → Option Label
  | label, [] => some label
  | label, c :: rest =>
    match label.step c with
    | .ok (some label) => run label rest
    | _ => none

theorem run_append (label : Label) (a b : List Char) :
    label.run (a ++ b) = (label.run a).bind fun l => l.run b := by
  induction a generalizing label with
  | nil => rfl
  | cons c rest ih =>
    rw [List.cons_append, run, run]
    split
    · exact ih _
    · rfl

theorem run_nameChars {chars : List Char} (named : ∀ d ∈ chars, isNameChar d = true)
    {front : List Char} {colon : Colon} (inside : colon ≠ .last) :
    run ⟨front, colon⟩ chars = some ⟨front ++ chars, colon⟩ := by
  induction chars generalizing front with
  | nil => rw [List.append_nil, run]
  | cons c rest ih =>
    have stepped : step ⟨front, colon⟩ c = .ok (some ⟨front ++ [c], colon⟩) := by
      have first := named c List.mem_cons_self
      cases colon with
      | last => exact absurd rfl inside
      | none => simp only [step, if_pos first]
      | past => simp only [step, if_pos first]
    rw [run, stepped]
    simp only
    rw [ih (fun d there => named d (List.mem_cons_of_mem c there)), List.append_assoc]
    rfl

theorem run_label {c : Char} {rest : List Char} (labelled : IsLabel (c :: rest)) :
    isNameStart c = true ∧
      ∃ colon, colon ≠ .last ∧ run ⟨[c], .none⟩ rest = some ⟨c :: rest, colon⟩ := by
  rcases labelled with named | ⟨front, back, split, named, named'⟩
  · obtain ⟨initial, others⟩ := isName_cons.mp named
    exact ⟨initial, .none, by decide, run_nameChars others (by decide)⟩
  · obtain ⟨d, more, rfl, initial, others⟩ := exists_of_isName named
    obtain ⟨e, last, rfl, initial', others'⟩ := exists_of_isName named'
    rw [List.cons_append] at split
    obtain ⟨rfl, rfl⟩ := List.cons_eq_cons.mp split
    refine ⟨initial, .past, by decide, ?_⟩
    rw [run_append, run_nameChars others (by decide)]
    have colon : step ⟨[c] ++ more, .none⟩ ':' = .ok (some ⟨[c] ++ more ++ [':'], .last⟩) := rfl
    have after : step ⟨[c] ++ more ++ [':'], .last⟩ e =
        .ok (some ⟨[c] ++ more ++ [':'] ++ [e], .past⟩) := by
      simp only [step, if_pos initial']
    rw [Option.bind_some, run, colon]
    simp only
    rw [run, after]
    simp only
    rw [run_nameChars others' (by decide)]
    simp

end Label

theorem ValueReader.step_plain {c : Char} (legal : isLegal c = true) (amp : c ≠ '&')
    (less : c ≠ '<') (ret : c ≠ '\r') (feed : c ≠ '\n') (tab : c ≠ '\t') (origin : Origin)
    (pieces : List ValuePiece) (offset : Nat) :
    step origin ⟨pieces, none, false⟩ offset c = some ⟨pieces ++ [.char c], none, false⟩ := by
  by_cases space : c = ' '
  · subst space
    rfl
  · simp [step, isSpace, legal, amp, less, ret, feed, tab, space]

def StandFor (pieces : List ValuePiece) (value : List Char) : Prop :=
  ∀ doctype replacement, textOfPieces (·.text doctype replacement) pieces = .ok value

theorem standFor_cons {piece : ValuePiece} {pieces : List ValuePiece} {c : Char}
    {value : List Char}
    (first : ∀ doctype replacement, piece.text doctype replacement = .ok [c])
    (others : StandFor pieces value) : StandFor (piece :: pieces) (c :: value) := by
  intro doctype replacement
  rw [textOfPieces, first, others]
  rfl

namespace Tag

def run (origin : Origin) : Tag → (offset : Nat) → List Char → Option Tag
  | tag, _, [] => some tag
  | tag, offset, c :: rest =>
    match tag.step origin offset c with
    | some (.more tag) => run origin tag (offset + 1) rest
    | _ => none

variable {origin : Origin} {tag tag' : Tag} {label : List Char} {attributes : List RawAttribute}

theorem run_append (origin : Origin) (tag : Tag) (offset : Nat) (a b : List Char) :
    tag.run origin offset (a ++ b) =
      (tag.run origin offset a).bind fun t => t.run origin (offset + a.length) b := by
  induction a generalizing tag offset with
  | nil => rfl
  | cons c rest ih =>
    rw [List.cons_append, run, run]
    split
    · rw [ih, List.length_cons, Nat.add_right_comm, Nat.add_assoc]
    · rfl

theorem run_trans {offset : Nat} {a b : List Char} {tag'' : Tag}
    (first : tag.run origin offset a = some tag')
    (second : tag'.run origin (offset + a.length) b = some tag'') :
    tag.run origin offset (a ++ b) = some tag'' := by
  rw [run_append, first]
  exact second

theorem run_cons {offset : Nat} {c : Char}
    (stepped : tag.step origin offset c = some (.more tag')) (rest : List Char) :
    tag.run origin offset (c :: rest) = tag'.run origin (offset + 1) rest := by
  rw [run, stepped]

/-- A part of a tag that takes in the characters of a label takes in a whole label. -/
theorem run_part (part : Label → TagPart)
    (moves : ∀ l next c, l.step c = .ok (some next) → ∀ offset,
      step origin ⟨label, attributes, part l⟩ offset c =
        some (.more ⟨label, attributes, part next⟩))
    {l l' : Label} {chars : List Char} (reads : l.run chars = some l') (offset : Nat) :
    run origin ⟨label, attributes, part l⟩ offset chars = some ⟨label, attributes, part l'⟩ := by
  induction chars generalizing l offset with
  | nil =>
    cases reads
    rfl
  | cons c rest ih =>
    rw [Label.run] at reads
    split at reads
    · next next stepped =>
      rw [run_cons (moves l next c stepped offset)]
      exact ih reads (offset + 1)
    · cases reads

theorem run_label {l l' : Label} {chars : List Char} (reads : l.run chars = some l')
    (offset : Nat) :
    run origin ⟨label, attributes, .label l⟩ offset chars =
      some ⟨label, attributes, .label l'⟩ := by
  refine run_part .label ?_ reads offset
  intro l next c stepped offset
  simp only [step, stepped]

theorem run_attributeLabel {l l' : Label} {chars : List Char} (reads : l.run chars = some l')
    (start offset : Nat) :
    run origin ⟨label, attributes, .attributeLabel l start⟩ offset chars =
      some ⟨label, attributes, .attributeLabel l' start⟩ := by
  refine run_part (.attributeLabel · start) ?_ reads offset
  intro l next c stepped offset
  simp only [step, stepped]

/-- Each character of a value is written so that it is read as one piece that stands for it. -/
theorem run_escapeValueChar {c : Char} (legal : isLegal c = true) (key : List Char)
    (start offset : Nat) :
    ∃ piece : ValuePiece, (∀ doctype replacement, piece.text doctype replacement = .ok [c]) ∧
      ∀ pieces, run origin ⟨label, attributes, .value key start '"' ⟨pieces, none, false⟩⟩ offset
        (escapeValueChar c) =
          some ⟨label, attributes, .value key start '"' ⟨pieces ++ [piece], none, false⟩⟩ := by
  unfold escapeValueChar
  split
  · exact ⟨.reference (.named "amp".toList) offset, fun _ _ => rfl, fun _ => rfl⟩
  · exact ⟨.reference (.named "lt".toList) offset, fun _ _ => rfl, fun _ => rfl⟩
  · exact ⟨.reference (.named "gt".toList) offset, fun _ _ => rfl, fun _ => rfl⟩
  · exact ⟨.reference (.named "quot".toList) offset, fun _ _ => rfl, fun _ => rfl⟩
  · exact ⟨.reference (.number 13) offset, fun _ _ => rfl, fun _ => rfl⟩
  · exact ⟨.reference (.number 10) offset, fun _ _ => rfl, fun _ => rfl⟩
  · exact ⟨.reference (.number 9) offset, fun _ _ => rfl, fun _ => rfl⟩
  · next amp less greater quote ret feed tab =>
    refine ⟨.char c, fun _ _ => rfl, ?_⟩
    intro pieces
    have reads := ValueReader.step_plain legal amp less ret feed tab origin pieces offset
    have inside : (c == '"') = false := beq_eq_false_iff_ne.mpr quote
    rw [run, step]
    simp [inside, reads, run]

theorem run_escapeValue {value : List Char} (legal : ∀ c ∈ value, isLegal c = true)
    (key : List Char) (start offset : Nat) (before : List ValuePiece) :
    ∃ pieces, StandFor pieces value ∧
      run origin ⟨label, attributes, .value key start '"' ⟨before, none, false⟩⟩ offset
        (escapeValue value) =
          some ⟨label, attributes, .value key start '"' ⟨before ++ pieces, none, false⟩⟩ := by
  induction value generalizing offset before with
  | nil =>
    refine ⟨[], fun _ _ => rfl, ?_⟩
    rw [List.append_nil]
    rfl
  | cons c value ih =>
    obtain ⟨piece, stands, read⟩ := @run_escapeValueChar origin label attributes c
      (legal c List.mem_cons_self) key start offset
    obtain ⟨pieces, stand, reads⟩ := ih (fun d there => legal d (List.mem_cons_of_mem c there))
      (offset + (escapeValueChar c).length) (before ++ [piece])
    refine ⟨piece :: pieces, standFor_cons stands stand, ?_⟩
    rw [List.append_cons]
    exact run_trans (read before) reads

def Settled (origin : Origin) (tag : Tag) (label : List Char) (attributes : List RawAttribute) :
    Prop :=
  ∀ offset c, c = ' ' ∨ c = '>' →
    tag.step origin offset c = afterPart ⟨label, attributes, tag.part⟩ c

theorem settled_label {colon : Colon} (inside : colon ≠ .last) :
    Settled origin ⟨[], [], .label ⟨label, colon⟩⟩ label [] := by
  intro offset c ending
  cases colon with
  | last => exact absurd rfl inside
  | none => rcases ending with rfl | rfl <;> rfl
  | past => rcases ending with rfl | rfl <;> rfl

theorem settled_valueEnd : Settled origin ⟨label, attributes, .valueEnd⟩ label attributes := by
  intro offset c ending
  rfl

theorem run_attribute (settled : Settled origin tag label attributes) {key value : List Char}
    (labelled : IsLabel key) (legal : ∀ c ∈ value, isLegal c = true) (offset : Nat) :
    ∃ raw : RawAttribute, raw.label = key ∧ StandFor raw.pieces value ∧
      tag.run origin offset (' ' :: key ++ "=\"".toList ++ escapeValue value ++ ['"']) =
        some ⟨label, attributes ++ [raw], .valueEnd⟩ := by
  obtain ⟨c, rest, rfl⟩ := exists_cons_of_isLabel labelled
  obtain ⟨initial, colon, inside, reads⟩ := Label.run_label labelled
  have gap : tag.step origin offset ' ' = some (.more ⟨label, attributes, .gap⟩) :=
    settled offset ' ' (Or.inl rfl)
  have starts : step origin ⟨label, attributes, .gap⟩ (offset + 1) c =
      some (.more ⟨label, attributes, .attributeLabel ⟨[c], .none⟩ (offset + 1)⟩) := by
    simp only [step, if_pos initial]
  have named : tag.run origin offset (' ' :: c :: rest) =
      some ⟨label, attributes, .attributeLabel ⟨c :: rest, colon⟩ (offset + 1)⟩ := by
    rw [run_cons gap, run_cons starts]
    exact run_attributeLabel reads _ _
  have opened : ∀ place, run origin
      ⟨label, attributes, .attributeLabel ⟨c :: rest, colon⟩ (offset + 1)⟩ place "=\"".toList =
        some ⟨label, attributes, .value (c :: rest) (offset + 1) '"' .start⟩ := by
    intro place
    cases colon with
    | last => exact absurd rfl inside
    | none => rfl
    | past => rfl
  obtain ⟨pieces, stand, valued⟩ := @run_escapeValue origin label attributes value legal (c :: rest)
    (offset + 1) (offset + (' ' :: c :: rest ++ "=\"".toList).length) []
  refine ⟨⟨c :: rest, offset + 1, pieces⟩, rfl, stand, ?_⟩
  exact run_trans (run_trans (run_trans named (opened _)) valued) rfl

def Spells (raw : RawAttribute) (written : List Char × List Char) : Prop :=
  raw.label = written.1 ∧ StandFor raw.pieces written.2

def Writable (written : List Char × List Char) : Prop :=
  IsLabel written.1 ∧ ∀ c ∈ written.2, isLegal c = true

theorem run_attributesMarkup (settled : Settled origin tag label attributes)
    {list : List (List Char × List Char)} (writable : ∀ a ∈ list, Writable a) (offset : Nat) :
    ∃ tag' raws, tag.run origin offset (attributesMarkup list) = some tag' ∧
      Settled origin tag' label (attributes ++ raws) ∧ List.Forall₂ Spells raws list := by
  induction list generalizing tag attributes offset with
  | nil =>
    refine ⟨tag, [], rfl, ?_, .nil⟩
    rw [List.append_nil]
    exact settled
  | cons a list ih =>
    obtain ⟨labelled, legal⟩ := writable a List.mem_cons_self
    obtain ⟨raw, same, stand, read⟩ := run_attribute settled labelled legal offset
    have ended : Settled origin ⟨label, attributes ++ [raw], .valueEnd⟩ label
        (attributes ++ [raw]) := settled_valueEnd
    obtain ⟨tag', raws, reads, settled', spell⟩ :=
      ih ended (fun b there => writable b (List.mem_cons_of_mem a there)) _
    refine ⟨tag', raw :: raws, run_trans read reads, ?_, .cons ⟨same, stand⟩ spell⟩
    rw [List.append_cons]
    exact settled'

end Tag

namespace State

variable {doctype : Doctype} {frames : List Frame} {label : List Char}
  {list : List (List Char × List Char)} {opening : Opening}

theorem run_tag {tag tag' : Tag} {length : Nat} {text : List Char}
    (reads : tag.run .document length text = some tag') :
    run doctype ⟨frames, .startTag tag, length⟩ text =
      some ⟨frames, .startTag tag', length + text.length⟩ := by
  induction text generalizing tag length with
  | nil =>
    cases reads
    rfl
  | cons c rest ih =>
    rw [Tag.run] at reads
    split at reads
    · next next stepped =>
      have stepped : tag.step (Surroundings.document doctype).origin length c =
          some (.more next) := stepped
      have advanced : advance doctype ⟨frames, .startTag tag, length⟩ c =
          .ok (.more ⟨frames, .startTag next, length + 1⟩) := by
        simp only [advance, step, stepped]
        rfl
      rw [run_cons advanced, ih reads, List.length_cons, Nat.add_right_comm, Nat.add_assoc]
    · cases reads

theorem run_opening (labelled : IsLabel label) (writable : ∀ a ∈ list, Tag.Writable a)
    (brackets : Nat) (afterReturn : Bool) (length : Nat) :
    ∃ tag raws length', run doctype ⟨frames, .text brackets afterReturn, length⟩
        ('<' :: label ++ attributesMarkup list) = some ⟨frames, .startTag tag, length'⟩ ∧
      tag.Settled .document label raws ∧ List.Forall₂ Tag.Spells raws list := by
  obtain ⟨c, rest, rfl⟩ := exists_cons_of_isLabel labelled
  obtain ⟨initial, colon, inside, reads⟩ := Label.run_label labelled
  obtain ⟨tag, raws, reads', settled, spell⟩ :=
    Tag.run_attributesMarkup (Tag.settled_label inside) writable (2 + rest.length)
  have less : advance doctype ⟨frames, .text brackets afterReturn, length⟩ '<' =
      .ok (.more ⟨frames, .less, 1⟩) := rfl
  have starts : advance doctype ⟨frames, .less, 1⟩ c =
      .ok (.more ⟨frames, .startTag (.start c), 2⟩) := by
    simp only [advance, step, if_pos initial]
    rfl
  have named : run doctype ⟨frames, .text brackets afterReturn, length⟩ ('<' :: c :: rest) =
      some ⟨frames, .startTag ⟨[], [], .label ⟨c :: rest, colon⟩⟩, 2 + rest.length⟩ := by
    rw [run_cons less, run_cons starts]
    exact run_tag (Tag.run_label reads 2)
  exact ⟨tag, raws, _, run_trans named (run_tag reads'), settled, spell⟩

/-- A start tag is closed as soon as its last character is read. -/
theorem advance_done {tag : Tag} {raws : List RawAttribute} {selfClosing : Bool} {length : Nat}
    (stepped : tag.step .document length '>' = some (.done label raws selfClosing)) :
    advance doctype ⟨frames, .startTag tag, length⟩ '>' =
      openElement (.document doctype) ⟨frames, .startTag tag, length⟩ label raws selfClosing := by
  have stepped : tag.step (Surroundings.document doctype).origin length '>' =
      some (.done label raws selfClosing) := stepped
  simp only [advance, step, stepped]

/-- A written start tag opens the element that it names. -/
theorem run_startTag (labelled : IsLabel label) (writable : ∀ a ∈ list, Tag.Writable a)
    (resolved : ∀ raws, List.Forall₂ Tag.Spells raws list →
      Opening.resolve doctype [] (scopeOf frames) label raws = .ok opening)
    (brackets : Nat) (afterReturn : Bool) (length : Nat) :
    run doctype ⟨frames, .text brackets afterReturn, length⟩
        ('<' :: label ++ attributesMarkup list ++ ['>']) =
      some (between
        (⟨label, opening.tag, opening.attributes, opening.scope, .empty⟩ :: frames)) := by
  obtain ⟨tag, raws, length', reached, settled, spell⟩ :=
    @run_opening doctype frames label list labelled writable brackets afterReturn length
  have resolved := resolved raws spell
  have opens : advance doctype ⟨frames, .startTag tag, length'⟩ '>' = .ok (.more (between
      (⟨label, opening.tag, opening.attributes, opening.scope, .empty⟩ :: frames))) := by
    rw [advance_done (settled length' '>' (Or.inr rfl)), openElement, Surroundings.document]
    simp only [resolved]
    rfl
  exact run_trans reached (run_cons opens [])

/-- A written tag of an empty element adds the element that it names. -/
theorem run_emptyTag (labelled : IsLabel label) (writable : ∀ a ∈ list, Tag.Writable a)
    (resolved : ∀ raws, List.Forall₂ Tag.Spells raws list →
      Opening.resolve doctype [] (scopeOf frames) label raws = .ok opening) (inside : frames ≠ [])
    (brackets : Nat) (afterReturn : Bool) (length : Nat) :
    run doctype ⟨frames, .text brackets afterReturn, length⟩
        ('<' :: label ++ attributesMarkup list ++ " />".toList) =
      some (between (addElement ⟨opening.tag, opening.attributes, .empty⟩ frames)) := by
  obtain ⟨tag, raws, length', reached, settled, spell⟩ :=
    @run_opening doctype frames label list labelled writable brackets afterReturn length
  have resolved := resolved raws spell
  have occupied : frames.isEmpty = false := by simpa using inside
  have slash : run doctype ⟨frames, .startTag tag, length'⟩ " /".toList =
      some ⟨frames, .startTag ⟨label, raws, .slash⟩, length' + 2⟩ := by
    refine run_tag ?_
    have gap := settled length' ' ' (Or.inl rfl)
    exact (Tag.run_cons gap ['/']).trans rfl
  have adds : advance doctype ⟨frames, .startTag ⟨label, raws, .slash⟩, length' + 2⟩ '>' =
      .ok (.more (between (addElement ⟨opening.tag, opening.attributes, .empty⟩ frames))) := by
    rw [advance_done rfl, openElement, Surroundings.document]
    simp only [resolved, occupied]
    rfl
  exact run_trans reached (run_trans slash (run_cons adds []))

theorem run_endLabel {front chars : List Char}
    (named : ∀ d ∈ chars, (isNameChar d || d == ':') = true) (nonempty : front ≠ [])
    (length : Nat) :
    run doctype ⟨frames, .endTag front false, length⟩ chars =
      some ⟨frames, .endTag (front ++ chars) false, length + chars.length⟩ := by
  induction chars generalizing front length with
  | nil =>
    rw [List.append_nil]
    rfl
  | cons c rest ih =>
    have first := named c List.mem_cons_self
    have occupied : front.isEmpty = false := by simpa using nonempty
    have advanced : advance doctype ⟨frames, .endTag front false, length⟩ c =
        .ok (.more ⟨frames, .endTag (front ++ [c]) false, length + 1⟩) := by
      simp only [advance, step, occupied, first]
      rfl
    rw [run_cons advanced, ih (fun d there => named d (List.mem_cons_of_mem c there)) (by simp),
      List.append_assoc, List.length_cons, Nat.add_right_comm, Nat.add_assoc]
    rfl

/-- A written end tag closes the innermost element if it has its name. -/
theorem run_endTag {frame : Frame} {rest : List Frame} (labelled : IsLabel frame.label)
    (inside : rest ≠ []) (brackets : Nat) (afterReturn : Bool) (length : Nat) :
    run doctype ⟨frame :: rest, .text brackets afterReturn, length⟩
        ("</".toList ++ frame.label ++ ['>']) =
      some (between (addElement frame.close rest)) := by
  obtain ⟨c, chars, same⟩ := exists_cons_of_isLabel labelled
  rw [same] at labelled ⊢
  obtain ⟨initial, others⟩ := chars_of_isLabel labelled
  have starts : advance doctype ⟨frame :: rest, .endTag [] false, 2⟩ c =
      .ok (.more ⟨frame :: rest, .endTag [c] false, 3⟩) := by
    simp only [advance, step, List.isEmpty_nil, initial]
    rfl
  have named : run doctype ⟨frame :: rest, .endTag [] false, 2⟩ (c :: chars) =
      some ⟨frame :: rest, .endTag (c :: chars) false, 3 + chars.length⟩ := by
    rw [run_cons starts]
    exact run_endLabel others (List.cons_ne_nil c []) 3
  have occupied : rest.isEmpty = false := by simpa using inside
  have closes : advance doctype ⟨frame :: rest, .endTag (c :: chars) false, 3 + chars.length⟩ '>' =
      .ok (.more (between (addElement frame.close rest))) := by
    rw [advance, step_close (by simp) rfl]
    simp [closeElement, Surroundings.document, same, occupied]
  have slash : run doctype ⟨frame :: rest, .text brackets afterReturn, length⟩ "</".toList =
      some ⟨frame :: rest, .endTag [] false, 2⟩ := rfl
  exact run_trans (run_trans slash named) (run_cons closes [])

end State

end Apidoc.Xml
