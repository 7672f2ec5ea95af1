import Mathlib.Tactic.SplitIfs
import Apidoc.Proofs.Xml.Value
import Apidoc.Xml.Reader

/-!
What one character can do inside the root element. Most characters add characters to the innermost
open element, or none, in the same way whatever elements are open; the others go on with a start
tag, end one, end an element, or stand for the text of an entity.
-/
namespace Apidoc.Xml

def addChars (added : List Char) (frames : List Frame) : List Frame :=
  added.foldl (fun frames c => addChar c frames) frames

theorem addChars_replicate_append (n : Nat) (c : Char) (frames : List Frame) :
    addChars (List.replicate n ']' ++ [c]) frames =
      addChar c (Nat.repeat (addChar ']') n frames) := by
  have held : ∀ n, addChars (List.replicate n ']') frames = Nat.repeat (addChar ']') n frames := by
    intro n
    induction n with
    | zero => rfl
    | succ n ih =>
      rw [List.replicate_succ', addChars, List.foldl_append, Nat.repeat, ← ih]
      rfl
  rw [addChars, List.foldl_append, ← held]
  rfl

namespace State

variable {s s' : State} {c : Char} {origin : Origin}

/-- A step adds the same characters and comes to the same mode whatever elements are open. -/
def Adds (step : List Frame → Except StepFault State) (added : List Char) (mode : Mode)
    (length : Nat) : Prop :=
  (∀ d ∈ added, isLegal d = true) ∧ (∀ tag, mode ≠ .startTag tag) ∧
    ∀ frames, step frames = .ok ⟨addChars added frames, mode, length⟩

theorem stepText_adds {brackets : Nat} {afterReturn : Bool}
    (stepped : s.stepText origin brackets afterReturn c = .ok s') :
    ∃ added mode length, s' = ⟨addChars added s.frames, mode, length⟩ ∧
      Adds (fun frames => stepText origin { s with frames } brackets afterReturn c)
        added mode length := by
  simp only [stepText, here] at stepped
  split_ifs at stepped with less amp bracket closing ret feed legal
  · cases stepped
    refine ⟨[], .less, 1, rfl, by simp, by simp, ?_⟩
    intro frames
    simp only [stepText, if_pos less]
    rfl
  · cases stepped
    refine ⟨[], .reference .start, 1, rfl, by simp, by simp, ?_⟩
    intro frames
    simp only [stepText, if_neg less, if_pos amp]
    rfl
  · cases stepped
    have same : c = ']' := by simpa using bracket
    have legal : isLegal c = true := by
      rw [same]
      decide
    refine ⟨[c], .text (brackets + 1) false, 0, rfl, by simpa using legal, by simp, ?_⟩
    intro frames
    simp only [stepText, if_neg less, if_neg amp, if_pos bracket]
    rfl
  · cases stepped
    refine ⟨['\n'], .text 0 true, 0, rfl, List.forall_mem_singleton.mpr rfl, by simp, ?_⟩
    intro frames
    simp only [stepText, if_neg less, if_neg amp, if_neg bracket, if_neg closing, if_pos ret]
    rfl
  · cases stepped
    refine ⟨[], .start, 0, rfl, by simp, by simp [Mode.start], ?_⟩
    intro frames
    simp only [stepText, if_neg less, if_neg amp, if_neg bracket, if_neg closing, if_neg ret,
      if_pos feed]
    rfl
  · cases stepped
    refine ⟨[c], .start, 0, rfl, by simpa using legal, by simp [Mode.start], ?_⟩
    intro frames
    simp only [stepText, if_neg less, if_neg amp, if_neg bracket, if_neg closing, if_neg ret,
      if_neg feed, if_pos legal]
    rfl

theorem stepCdata_adds {brackets : Nat} {afterReturn : Bool}
    (stepped : s.stepCdata origin brackets afterReturn c = .ok s') :
    ∃ added mode length, s' = ⟨addChars added s.frames, mode, length⟩ ∧
      Adds (fun frames => stepCdata origin { s with frames } brackets afterReturn c)
        added mode length := by
  have held : ∀ d, isLegal d = true →
      ∀ x ∈ List.replicate brackets ']' ++ [d], isLegal x = true := by
    intro d legal x there
    rcases List.mem_append.mp there with bracket | last
    · rw [List.eq_of_mem_replicate bracket]
      decide
    · rw [List.mem_singleton.mp last]
      exact legal
  simp only [stepCdata, here] at stepped
  split_ifs at stepped with bracket full closing ret feed legal
  · cases stepped
    refine ⟨[']'], .cdata 2 false, 0, rfl, List.forall_mem_singleton.mpr rfl, by simp, ?_⟩
    intro frames
    simp only [stepCdata, if_pos bracket, if_pos full]
    rfl
  · cases stepped
    refine ⟨[], .cdata (brackets + 1) false, 0, rfl, by simp, by simp, ?_⟩
    intro frames
    simp only [stepCdata, if_pos bracket, if_neg full]
    rfl
  · cases stepped
    refine ⟨[], .start, 0, rfl, by simp, by simp [Mode.start], ?_⟩
    intro frames
    simp only [stepCdata, if_neg bracket, if_pos closing]
    rfl
  · cases stepped
    refine ⟨List.replicate brackets ']' ++ ['\n'], .cdata 0 true, 0, ?_, held _ (by decide),
      by simp, ?_⟩
    · rw [addChars_replicate_append]
    · intro frames
      simp only [stepCdata, if_neg bracket, if_neg closing, if_pos ret, addChars_replicate_append]
  · cases stepped
    refine ⟨[], .cdata 0 false, 0, rfl, by simp, by simp, ?_⟩
    intro frames
    simp only [stepCdata, if_neg bracket, if_neg closing, if_neg ret, if_pos feed]
    rfl
  · cases stepped
    refine ⟨List.replicate brackets ']' ++ [c], .cdata 0 false, 0, ?_, held _ legal, by simp, ?_⟩
    · rw [addChars_replicate_append]
    · intro frames
      simp only [stepCdata, if_neg bracket, if_neg closing, if_neg ret, if_neg feed, if_pos legal,
        addChars_replicate_append]

theorem stepCdataOpening_adds {seen : List Char}
    (stepped : s.stepCdataOpening seen c = .ok s') :
    ∃ added mode length, s' = ⟨addChars added s.frames, mode, length⟩ ∧
      Adds (fun frames => stepCdataOpening { s with frames } seen c) added mode length := by
  simp only [stepCdataOpening] at stepped
  split_ifs at stepped with short whole
  · cases stepped
    refine ⟨[], .cdataOpening (seen ++ [c]), s.length + 1, rfl, by simp, by simp, ?_⟩
    intro frames
    simp only [stepCdataOpening, if_pos short]
    rfl
  · cases stepped
    refine ⟨[], .cdata 0 false, 0, rfl, by simp, by simp, ?_⟩
    intro frames
    simp only [stepCdataOpening, if_neg short, if_pos whole]
    rfl

variable {around : Surroundings}
  {replace : List Char → List Char → List Frame → Except Reason (List Frame)}

inductive Moved (around : Surroundings)
    (replace : List Char → List Char → List Frame → Except Reason (List Frame))
    (s : State) (c : Char) : Progress → Prop where
  | adds (added : List Char) (mode : Mode) (length : Nat)
      (legal : ∀ d ∈ added, isLegal d = true) (plain : ∀ tag, mode ≠ .startTag tag)
      (uniform : ∀ frames, step around replace { s with frames } c =
        .ok (.more ⟨addChars added frames, mode, length⟩)) :
      Moved around replace s c (.more ⟨addChars added s.frames, mode, length⟩)
  | starts (reading : s.mode = .less) (initial : isNameStart c = true) :
      Moved around replace s c (.more (s.moveTo (.startTag (.start c))))
  | tags (tag next : Tag) (reading : s.mode = .startTag tag)
      (stepped : tag.step around.origin s.length c = some (.more next)) :
      Moved around replace s c (.more (s.moveTo (.startTag next)))
  | opens (tag : Tag) (label : List Char) (attributes : List RawAttribute) (opening : Opening)
      (reading : s.mode = .startTag tag)
      (stepped : tag.step around.origin s.length c = some (.done label attributes false))
      (resolved : Opening.resolve around.doctype around.active (scopeOf s.frames) label attributes =
        .ok opening) :
      Moved around replace s c (.more (between
        (⟨label, opening.tag, opening.attributes, opening.scope, .empty⟩ :: s.frames)))
  | empties (tag : Tag) (label : List Char) (attributes : List RawAttribute) (opening : Opening)
      (reading : s.mode = .startTag tag)
      (stepped : tag.step around.origin s.length c = some (.done label attributes true))
      (resolved : Opening.resolve around.doctype around.active (scopeOf s.frames) label attributes =
        .ok opening) (inside : s.frames ≠ []) :
      Moved around replace s c (.more (between
        (addElement ⟨opening.tag, opening.attributes, .empty⟩ s.frames)))
  | emptyRoot (tag : Tag) (label : List Char) (attributes : List RawAttribute) (opening : Opening)
      (reading : s.mode = .startTag tag)
      (stepped : tag.step around.origin s.length c = some (.done label attributes true))
      (resolved : Opening.resolve around.doctype around.active (scopeOf s.frames) label attributes =
        .ok opening) (outside : s.frames = []) :
      Moved around replace s c (.closed ⟨opening.tag, opening.attributes, .empty⟩)
  | closes (label : List Char) (spaced : Bool) (frame : Frame) (rest : List Frame)
      (reading : s.mode = .endTag label spaced) (last : c = '>') (nonempty : label ≠ [])
      (innermost : s.frames = frame :: rest) (deep : s.frames.length ≠ around.base)
      (matching : frame.label = label) (inside : rest ≠ []) :
      Moved around replace s c (.more (between (addElement frame.close rest)))
  | closesRoot (label : List Char) (spaced : Bool) (frame : Frame)
      (reading : s.mode = .endTag label spaced) (last : c = '>')
      (innermost : s.frames = [frame]) (matching : frame.label = label) :
      Moved around replace s c (.closed frame.close)
  | replaces (reference : Reference) (name text : List Char) (frames : List Frame)
      (reading : s.mode = .reference reference)
      (declared : around.doctype.entity? name = some (.internal text))
      (replaced : replace name text s.frames = .ok frames) :
      Moved around replace s c (.more (between frames))

theorem Moved.moves {mode : Mode} {length : Nat} (plain : ∀ tag, mode ≠ .startTag tag)
    (uniform : ∀ frames, step around replace { s with frames } c =
      .ok (.more ⟨frames, mode, length⟩)) :
    Moved around replace s c (.more ⟨s.frames, mode, length⟩) :=
  .adds [] mode length (by simp) plain uniform

theorem Moved.of_adds {f : List Frame → Except StepFault State} {added : List Char} {mode : Mode}
    {length : Nat} (adds : Adds f added mode length)
    (same : ∀ frames, step around replace { s with frames } c = (f frames).map .more) :
    Moved around replace s c (.more ⟨addChars added s.frames, mode, length⟩) := by
  refine .adds added mode length adds.1 adds.2.1 ?_
  intro frames
  rw [same, adds.2.2]
  rfl

theorem refer_moved {reference : Reference} {target : Target}
    (reading : s.mode = .reference reference) (whole : reference.step c = some (.inr target))
    (referred : s.refer around.doctype replace target = .ok s') :
    Moved around replace s c (.more s') := by
  obtain ⟨frames, mode, length⟩ := s
  cases reading
  have same : ∀ frames, step around replace ⟨frames, .reference reference, length⟩ c =
      (refer around.doctype replace ⟨frames, .reference reference, length⟩ target).map .more := by
    intro frames
    simp only [step, whole]
  have known : ∀ d, isLegal d = true →
      (∀ frames, refer around.doctype replace ⟨frames, .reference reference, length⟩ target =
        .ok (between (addChar d frames))) →
      Moved around replace ⟨frames, .reference reference, length⟩ c
        (.more (between (addChar d frames))) := by
    intro d legal stands
    refine .adds [d] .start 0 (by simpa using legal) (by simp [Mode.start]) ?_
    intro frames
    rw [same, stands]
    rfl
  cases target with
  | number n =>
    simp only [refer, within] at referred
    split at referred
    · next d number =>
      cases referred
      refine known d (charOfNumber?_legal number) ?_
      intro frames
      simp only [refer, number]
    · cases referred
  | named name =>
    simp only [refer, within] at referred
    split at referred
    · next d predefined =>
      cases referred
      refine known d (predefined?_legal predefined) ?_
      intro frames
      simp only [refer, predefined]
    · split at referred
      · split_ifs at referred
      · cases referred
      · cases referred
      · next text declared =>
        split at referred
        · next frames' replaced =>
          cases referred
          exact .replaces reference name text frames' rfl declared replaced
        · cases referred

theorem openElement_moved {tag : Tag} {label : List Char} {attributes : List RawAttribute}
    {selfClosing : Bool} {p : Progress} (reading : s.mode = .startTag tag)
    (stepped : tag.step around.origin s.length c = some (.done label attributes selfClosing))
    (opened : s.openElement around label attributes selfClosing = .ok p) :
    Moved around replace s c p := by
  unfold openElement within at opened
  split at opened
  · cases opened
  · next opening resolved =>
    split at opened
    · next closing =>
      subst closing
      simp only at opened
      split at opened
      · next outside =>
        cases opened
        exact .emptyRoot tag label attributes opening reading stepped resolved
          (List.isEmpty_iff.mp outside)
      · next inside =>
        cases opened
        refine .empties tag label attributes opening reading stepped resolved ?_
        intro outside
        exact inside (List.isEmpty_iff.mpr outside)
    · next open_ =>
      have plain : selfClosing = false := by simpa using open_
      subst plain
      cases opened
      exact .opens tag label attributes opening reading stepped resolved

theorem closeElement_moved {label : List Char} {spaced : Bool} {p : Progress}
    (reading : s.mode = .endTag label spaced) (last : c = '>') (nonempty : label ≠ [])
    (closed : s.closeElement around.base label = .ok p) : Moved around replace s c p := by
  unfold closeElement within at closed
  split at closed
  · cases closed
  · next deep =>
    split at closed
    · cases closed
    · next frame rest innermost =>
      split at closed
      · cases closed
      · next matching =>
        have matching := Decidable.not_not.mp matching
        split at closed
        · next outside =>
          cases closed
          rw [List.isEmpty_iff.mp outside] at innermost
          exact .closesRoot label spaced frame reading last innermost matching
        · next inside =>
          cases closed
          refine .closes label spaced frame rest reading last nonempty innermost deep matching ?_
          intro outside
          exact inside (List.isEmpty_iff.mpr outside)

theorem step_close {label : List Char} (nonempty : label ≠ [])
    {spaced : Bool} (reading : s.mode = .endTag label spaced) :
    step around replace s '>' = s.closeElement around.base label := by
  have ended : (isNameChar '>' || '>' == ':') = false := by decide
  have space : isSpace '>' = false := by decide
  have named : label.isEmpty = false := by simpa using nonempty
  simp only [step, reading, named, ended, space]
  simp

section Modes

variable {p : Progress} (stepped : step around replace s c = .ok p)

include stepped

theorem reference_moved {reference : Reference} (reading : s.mode = .reference reference) :
    Moved around replace s c p := by
  simp only [step, reading] at stepped
  split at stepped
  · cases stepped
  · next next more =>
    cases stepped
    refine .moves (by simp) ?_
    intro frames
    simp only [step, reading, more]
    rfl
  · next target whole =>
    obtain ⟨s', referred, rfl⟩ := map_eq_ok_iff.mp stepped
    exact refer_moved reading whole referred

theorem less_moved (reading : s.mode = .less) : Moved around replace s c p := by
  simp only [step, reading, here] at stepped
  split_ifs at stepped with initial slash bang mark
  · cases stepped
    exact .starts reading initial
  · cases stepped
    refine .moves (by simp) ?_
    intro frames
    simp only [step, reading, if_neg initial, if_pos slash]
    rfl
  · cases stepped
    refine .moves (by simp) ?_
    intro frames
    simp only [step, reading, if_neg initial, if_neg slash, if_pos bang]
    rfl
  · cases stepped
    refine .moves (by simp) ?_
    intro frames
    simp only [step, reading, if_neg initial, if_neg slash, if_neg bang, if_pos mark]
    rfl

theorem bang_moved (reading : s.mode = .bang) : Moved around replace s c p := by
  simp only [step, reading, here] at stepped
  split_ifs at stepped with dash bracket
  · cases stepped
    refine .moves (by simp) ?_
    intro frames
    simp only [step, reading, if_pos dash]
    rfl
  · cases stepped
    refine .moves (by simp) ?_
    intro frames
    simp only [step, reading, if_neg dash, if_pos bracket]
    rfl

theorem aside_moved {aside : Aside} (reading : s.mode = .aside aside) :
    Moved around replace s c p := by
  simp only [step, reading, here, within] at stepped
  split at stepped
  · cases stepped
  · next next more =>
    cases stepped
    refine .moves (by simp) ?_
    intro frames
    simp only [step, reading, more]
    rfl
  · next declaration whole =>
    split_ifs at stepped with misplaced
    cases stepped
    refine .moves (by simp [Mode.start]) ?_
    intro frames
    simp only [step, reading, whole, if_neg misplaced]
    rfl

theorem startTag_moved {tag : Tag} (reading : s.mode = .startTag tag) :
    Moved around replace s c p := by
  simp only [step, reading, here] at stepped
  split at stepped
  · cases stepped
  · next next more =>
    cases stepped
    exact .tags tag next reading more
  · next label attributes selfClosing whole => exact openElement_moved reading whole stepped

theorem endTag_moved {label : List Char} {spaced : Bool} (reading : s.mode = .endTag label spaced) :
    Moved around replace s c p := by
  simp only [step, reading, here] at stepped
  generalize goesOn : (!spaced && (if label.isEmpty then isNameStart c
    else isNameChar c || c == ':')) = more at stepped
  split_ifs at stepped with longer nameless space last
  · cases stepped
    refine .moves (by simp) ?_
    intro frames
    simp only [step, reading, goesOn, if_pos longer]
    rfl
  · cases stepped
    refine .moves (by simp) ?_
    intro frames
    simp only [step, reading, goesOn]
    rw [if_neg longer, if_neg nameless, if_pos space]
    rfl
  · have last : c = '>' := by simpa using last
    refine closeElement_moved reading last ?_ stepped
    intro nothing
    exact nameless (List.isEmpty_iff.mpr nothing)

theorem step_moved : Moved around replace s c p := by
  cases reading : s.mode with
  | text brackets afterReturn =>
    simp only [step, reading] at stepped
    obtain ⟨s', read, rfl⟩ := map_eq_ok_iff.mp stepped
    obtain ⟨added, mode, length, rfl, adds⟩ := stepText_adds read
    exact .of_adds adds fun _ => by simp only [step, reading]
  | cdataOpening seen =>
    simp only [step, reading] at stepped
    obtain ⟨s', read, rfl⟩ := map_eq_ok_iff.mp stepped
    obtain ⟨added, mode, length, rfl, adds⟩ := stepCdataOpening_adds read
    exact .of_adds adds fun _ => by simp only [step, reading]
  | cdata brackets afterReturn =>
    simp only [step, reading] at stepped
    obtain ⟨s', read, rfl⟩ := map_eq_ok_iff.mp stepped
    obtain ⟨added, mode, length, rfl, adds⟩ := stepCdata_adds read
    exact .of_adds adds fun _ => by simp only [step, reading]
  | reference reference => exact reference_moved stepped reading
  | less => exact less_moved stepped reading
  | bang => exact bang_moved stepped reading
  | aside aside => exact aside_moved stepped reading
  | startTag tag => exact startTag_moved stepped reading
  | endTag label spaced => exact endTag_moved stepped reading

end Modes

theorem advance_moved {doctype : Doctype} {p : Progress} (advanced : s.advance doctype c = .ok p) :
    Moved (.document doctype) (readEntity doctype.entities.length (.document doctype)) s c p :=
  step_moved advanced

end State

end Apidoc.Xml
