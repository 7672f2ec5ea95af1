import Apidoc.Proofs.Xml.Sound
import Apidoc.Proofs.Xml.Step

/-!
What a document comes to: every element of it is one that a start tag can give, and every character
is one that a document may hold. One character keeps this of the elements that are open, so a whole
text does, and so does the replacement text of an entity.
-/
namespace Apidoc.Xml

namespace Label

def Sound (label : Label) : Prop :=
  match label.colon with
  | .none => isName label.chars = true
  | .last => ∃ front, label.chars = front ++ [':'] ∧ isName front = true
  | .past => ∃ front rest, label.chars = front ++ ':' :: rest ∧ isName front = true ∧
      isName rest = true

variable {label next : Label} {c : Char}

theorem step_sound (sound : label.Sound) (stepped : label.step c = .ok (some next)) :
    next.Sound := by
  obtain ⟨chars, colon⟩ := label
  cases colon with
  | none =>
    simp only [step] at stepped
    split_ifs at stepped with named colon
    · cases stepped
      exact isName_append sound named
    · cases stepped
      exact ⟨chars, by rw [beq_iff_eq.mp colon], sound⟩
    · cases stepped
  | last =>
    obtain ⟨front, same, first⟩ := sound
    simp only [step] at stepped
    split_ifs at stepped with initial
    cases stepped
    refine ⟨front, [c], ?_, first, isName_cons.mpr ⟨initial, by simp⟩⟩
    simp only at same ⊢
    rw [same, List.append_assoc]
    rfl
  | past =>
    obtain ⟨front, rest, same, first, second⟩ := sound
    simp only [step] at stepped
    split_ifs at stepped with named colon
    · cases stepped
      refine ⟨front, rest ++ [c], ?_, first, isName_append second named⟩
      simp only at same ⊢
      rw [same, List.append_assoc]
      rfl
    · contradiction
    · cases stepped

theorem isLabel_of_ended (sound : label.Sound) (ended : label.step c = .ok none) :
    IsLabel label.chars := by
  obtain ⟨chars, colon⟩ := label
  cases colon with
  | none => exact Or.inl sound
  | last =>
    simp only [step] at ended
    split_ifs at ended
    cases ended
  | past => exact Or.inr sound

end Label

def TagPart.Sound : TagPart → Prop
  | .label l => l.Sound
  | .gap => True
  | .attributeLabel l _ => l.Sound
  | .equals key _ => IsLabel key
  | .quote key _ => IsLabel key
  | .value key _ _ reader => IsLabel key ∧ LegalPieces reader.pieces
  | .valueEnd => True
  | .slash => True

def SoundRaws (raws : List RawAttribute) : Prop :=
  ∀ raw ∈ raws, IsLabel raw.label ∧ LegalPieces raw.pieces

namespace Tag

structure Sound (tag : Tag) : Prop where
  named : (∀ label, tag.part ≠ .label label) → IsLabel tag.label
  given : SoundRaws tag.attributes
  part : tag.part.Sound

def SoundStep : TagStep → Prop
  | .more tag => tag.Sound
  | .done label raws _ => IsLabel label ∧ SoundRaws raws

variable {tag : Tag} {origin : Origin} {offset : Nat} {c : Char} {stepped : TagStep}

theorem afterPart_sound (named : IsLabel tag.label) (given : SoundRaws tag.attributes)
    (done : tag.afterPart c = some stepped) : SoundStep stepped := by
  unfold afterPart at done
  split_ifs at done
  · cases done
    exact ⟨fun _ => named, given, trivial⟩
  · cases done
    exact ⟨named, given⟩
  · cases done
    exact ⟨fun _ => named, given, trivial⟩

theorem afterAttributeLabel_sound {label : List Char} {start : Nat} (named : IsLabel tag.label)
    (given : SoundRaws tag.attributes) (labelled : IsLabel label)
    (done : tag.afterAttributeLabel label start c = some stepped) : SoundStep stepped := by
  unfold afterAttributeLabel at done
  split_ifs at done
  · cases done
    exact ⟨fun _ => named, given, labelled⟩
  · cases done
    exact ⟨fun _ => named, given, labelled⟩

theorem start_sound (initial : isNameStart c = true) : (start c).Sound :=
  ⟨fun other => absurd rfl (other _), by simp [SoundRaws, start],
    isName_cons.mpr ⟨initial, by simp⟩⟩

theorem step_sound (sound : tag.Sound) (done : tag.step origin offset c = some stepped) :
    SoundStep stepped := by
  obtain ⟨label, attributes, part⟩ := tag
  obtain ⟨named, given, sound⟩ := sound
  cases part with
  | label l =>
    simp only [step] at done
    split at done
    · cases done
    · next next stepped =>
      cases done
      exact ⟨fun other => absurd rfl (other _), given, Label.step_sound sound stepped⟩
    · next ended =>
      have labelled := Label.isLabel_of_ended sound ended
      exact @afterPart_sound ⟨l.chars, attributes, .label l⟩ c stepped labelled given done
  | gap =>
    have named := named (by simp)
    simp only [step] at done
    split_ifs at done with initial
    · cases done
      exact ⟨fun _ => named, given, isName_cons.mpr ⟨initial, by simp⟩⟩
    · exact @afterPart_sound ⟨label, attributes, .gap⟩ c stepped named given done
  | attributeLabel l start =>
    have named := named (by simp)
    simp only [step] at done
    split at done
    · cases done
    · next next stepped =>
      cases done
      exact ⟨fun _ => named, given, Label.step_sound sound stepped⟩
    · next ended =>
      have labelled := Label.isLabel_of_ended sound ended
      exact afterAttributeLabel_sound named given labelled done
  | equals key start => exact afterAttributeLabel_sound (named (by simp)) given sound done
  | quote key start =>
    have named := named (by simp)
    simp only [step] at done
    split_ifs at done
    · cases done
      exact ⟨fun _ => named, given, sound⟩
    · cases done
      exact ⟨fun _ => named, given, sound, by simp [LegalPieces, ValueReader.start]⟩
  | value key start quote reader =>
    have named := named (by simp)
    simp only [step] at done
    split_ifs at done
    · cases done
      refine ⟨fun _ => named, ?_, trivial⟩
      intro raw there
      rcases List.mem_append.mp there with old | new
      · exact given raw old
      · rw [List.mem_singleton.mp new]
        exact sound
    · obtain ⟨next, read, rfl⟩ := Option.map_eq_some_iff.mp done
      exact ⟨fun _ => named, given, sound.1, ValueReader.step_legal sound.2 read⟩
  | valueEnd =>
    have named := named (by simp)
    exact @afterPart_sound ⟨label, attributes, .valueEnd⟩ c stepped named given done
  | slash =>
    have named := named (by simp)
    simp only [step] at done
    split_ifs at done
    cases done
    exact ⟨named, given⟩

end Tag

theorem Content.reverseOnto_sound {c d : Content} (first : c.Sound) (second : d.Sound) :
    (c.reverseOnto d).Sound := by
  induction c generalizing d with
  | empty => exact second
  | char c next ih => exact ih first.2 ⟨first.1, second⟩
  | element tag attributes inner next _ ih => exact ih first.2.2 ⟨first.1, first.2.1, second⟩

structure Element.Sound (e : Element) : Prop where
  tag : SoundTag e.tag e.attributes
  content : e.content.Sound

structure Frame.Sound (frame : Frame) : Prop where
  tag : SoundTag frame.tag frame.attributes
  scope : frame.scope.Sound
  content : frame.content.Sound

theorem Frame.Sound.close {frame : Frame} (sound : frame.Sound) : frame.close.Sound :=
  ⟨sound.tag, Content.reverseOnto_sound sound.content trivial⟩

def SoundFrames (frames : List Frame) : Prop := ∀ frame ∈ frames, frame.Sound

section
variable {frames : List Frame}

theorem addChars_sound {added : List Char} (sound : SoundFrames frames)
    (legal : ∀ d ∈ added, isLegal d = true) : SoundFrames (addChars added frames) := by
  induction added generalizing frames with
  | nil => exact sound
  | cons c rest ih =>
    refine ih ?_ (fun d there => legal d (List.mem_cons_of_mem c there))
    cases frames with
    | nil => exact sound
    | cons frame below =>
      obtain ⟨first, others⟩ := List.forall_mem_cons.mp sound
      refine List.forall_mem_cons.mpr ⟨?_, others⟩
      exact ⟨first.tag, first.scope, legal c List.mem_cons_self, first.content⟩

theorem addElement_sound {e : Element} (sound : SoundFrames frames) (added : e.Sound) :
    SoundFrames (addElement e frames) := by
  cases frames with
  | nil => exact sound
  | cons frame below =>
    obtain ⟨first, others⟩ := List.forall_mem_cons.mp sound
    refine List.forall_mem_cons.mpr ⟨?_, others⟩
    exact ⟨first.tag, first.scope, added.tag, added.content, first.content⟩

theorem scopeOf_sound (sound : SoundFrames frames) : (scopeOf frames).Sound := by
  cases frames with
  | nil => exact Scope.outermost_sound
  | cons frame below => exact (sound frame List.mem_cons_self).scope

end

namespace State

structure Sound (s : State) : Prop where
  frames : SoundFrames s.frames
  tag : ∀ tag, s.mode = .startTag tag → tag.Sound

theorem between_sound {frames : List Frame} (sound : SoundFrames frames) : (between frames).Sound :=
  ⟨sound, by simp [between, Mode.start]⟩

end State

def Progress.Sound : Progress → Prop
  | .more s => s.Sound
  | .closed root => root.Sound

variable {around : Surroundings}
  {replace : List Char → List Char → List Frame → Except Reason (List Frame)}
  {s s' : State} {c : Char}

theorem step_sound (declared : around.doctype.Sound)
    (replaced : ∀ name text frames frames', replace name text frames = .ok frames' →
      SoundFrames frames → SoundFrames frames')
    (sound : s.Sound) {p : Progress} (advanced : s.step around replace c = .ok p) : p.Sound := by
  cases State.step_moved advanced with
  | adds added mode length legal plain uniform =>
    exact ⟨addChars_sound sound.frames legal, fun tag same => absurd same (plain tag)⟩
  | starts reading initial =>
    refine ⟨sound.frames, ?_⟩
    rintro tag ⟨⟩
    exact Tag.start_sound initial
  | tags tag next reading stepped =>
    refine ⟨sound.frames, ?_⟩
    rintro tag' ⟨⟩
    exact Tag.step_sound (sound.tag tag reading) stepped
  | opens tag label raws opening reading stepped resolved =>
    obtain ⟨labelled, given⟩ := Tag.step_sound (sound.tag tag reading) stepped
    obtain ⟨tagged, inner⟩ :=
      resolve_sound declared (scopeOf_sound sound.frames) labelled given resolved
    refine State.between_sound (List.forall_mem_cons.mpr ⟨?_, sound.frames⟩)
    exact ⟨tagged, inner, trivial⟩
  | empties tag label raws opening reading stepped resolved inside =>
    obtain ⟨labelled, given⟩ := Tag.step_sound (sound.tag tag reading) stepped
    obtain ⟨tagged, -⟩ :=
      resolve_sound declared (scopeOf_sound sound.frames) labelled given resolved
    exact State.between_sound (addElement_sound sound.frames ⟨tagged, trivial⟩)
  | emptyRoot tag label raws opening reading stepped resolved outside =>
    obtain ⟨labelled, given⟩ := Tag.step_sound (sound.tag tag reading) stepped
    obtain ⟨tagged, -⟩ :=
      resolve_sound declared (scopeOf_sound sound.frames) labelled given resolved
    exact ⟨tagged, trivial⟩
  | closes label spaced frame rest reading last nonempty innermost deep matching inside =>
    have below := sound.frames
    rw [innermost] at below
    obtain ⟨first, others⟩ := List.forall_mem_cons.mp below
    exact State.between_sound (addElement_sound others first.close)
  | closesRoot label spaced frame reading last innermost matching =>
    have below := sound.frames
    rw [innermost] at below
    exact (below frame List.mem_cons_self).close
  | replaces reference name text frames reading entity changed =>
    exact State.between_sound (replaced name text s.frames frames changed sound.frames)

theorem runEntity_sound {advance : State → Char → Except StepFault Progress}
    (each : ∀ (s : State) c p, s.Sound → advance s c = .ok p → p.Sound) {base : Nat}
    {text : List Char} {frames : List Frame} (sound : s.Sound)
    (done : State.runEntity advance base s text = .ok frames) : SoundFrames frames := by
  induction text generalizing s with
  | nil =>
    rw [State.runEntity, State.endEntity] at done
    split at done
    · split_ifs at done
      cases done
      exact sound.frames
    · cases done
  | cons c rest ih =>
    rw [State.runEntity] at done
    split at done
    · cases done
    · next next stepped => exact ih (each s c _ sound stepped) done
    · cases done

theorem readEntity_sound {depth : Nat} (declared : around.doctype.Sound) {name text : List Char}
    {frames frames' : List Frame} (sound : SoundFrames frames)
    (done : readEntity depth around name text frames = .ok frames') : SoundFrames frames' := by
  induction depth generalizing around name text frames frames' with
  | zero => cases done
  | succ depth ih =>
    rw [readEntity] at done
    split_ifs at done
    refine runEntity_sound ?_ (State.between_sound sound) done
    intro s c p own stepped
    have same : (around.inside name frames.length).doctype.Sound := declared
    refine step_sound same ?_ own stepped
    intro name' text' before after replaced each
    exact ih same each replaced

theorem readRoot_sound {doctype : Doctype} (declared : doctype.Sound) {text after : List Char}
    {root : Element} (sound : s.Sound) (done : readRoot doctype s text = .ok (root, after)) :
    root.Sound := by
  have document : (Surroundings.document doctype).doctype.Sound := declared
  have each : ∀ (s : State) c p, s.Sound → s.advance doctype c = .ok p → p.Sound := by
    intro s c p own advanced
    refine step_sound document ?_ own advanced
    intro name text before after replaced frames
    exact readEntity_sound document frames replaced
  induction text generalizing s with
  | nil => cases done
  | cons c rest ih =>
    rw [readRoot] at done
    split at done
    · cases done
    · next next advanced => exact ih (each s c _ sound advanced) done
    · next root' advanced =>
      cases done
      exact each s c _ sound advanced

/-- The root element of a document, with all that is inside it, is as elements may be. -/
theorem parseDocument_sound {text : List Char} {root : Element}
    (parsed : parseDocument text = .ok root) : root.Sound := by
  unfold parseDocument at parsed
  obtain ⟨⟨doctype, body⟩, prolog, parsed⟩ := bind_eq_ok_iff.mp parsed
  obtain ⟨⟨root', after⟩, read, parsed⟩ := bind_eq_ok_iff.mp parsed
  obtain ⟨_, -, done⟩ := bind_eq_ok_iff.mp parsed
  cases done
  have begun : Prolog.Survey.Sound .initial := ⟨by simp [Prolog.Survey.initial], by
    simp [Prolog.Survey.initial, Prolog.Place.key?]⟩
  have outside : State.initial.Sound :=
    ⟨by simp [SoundFrames, State.initial], by simp [State.initial, Mode.start]⟩
  exact readRoot_sound (readProlog_sound begun prolog) outside read

end Apidoc.Xml
