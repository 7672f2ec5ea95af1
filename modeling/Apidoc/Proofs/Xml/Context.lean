import Apidoc.Proofs.Xml.Run
import Apidoc.Proofs.Xml.Step

/-!
What is read inside an element does not depend on where the element stands. Two stacks of open
elements are related when they have the same upper elements; a text that is read on the one is read
on the other, with the same outcome, as long as the lowest of the shared elements stays open.
-/
namespace Apidoc.Xml

namespace Content

theorem append_empty (c : Content) : c ++ Content.empty = c := by
  induction c with
  | empty => rfl
  | char c next ih => exact congrArg (char c) ih
  | element tag attributes inner next _ ih => exact congrArg (element tag attributes inner) ih

end Content

/-- The same elements stand on `ground` in the one stack and on `host` in the other, and what the
ground holds the host holds after its own content. -/
def Rehosted (ground host : Frame) (base fs gs : List Frame) : Prop :=
  ∃ upper content,
    fs = upper ++ [{ ground with content }] ∧
      gs = upper ++ { host with content := content ++ host.content } :: base

namespace Rehosted

variable {ground host : Frame} {base fs gs : List Frame}

theorem refl (ground host : Frame) (base : List Frame) :
    Rehosted ground host base [{ ground with content := .empty }] (host :: base) :=
  ⟨[], .empty, rfl, rfl⟩

theorem addChar (related : Rehosted ground host base fs gs) (c : Char) :
    Rehosted ground host base (addChar c fs) (addChar c gs) := by
  obtain ⟨upper, content, rfl, rfl⟩ := related
  cases upper with
  | nil => exact ⟨[], .char c content, rfl, rfl⟩
  | cons top upper =>
    exact ⟨{ top with content := .char c top.content } :: upper, content, rfl, rfl⟩

theorem addChars (related : Rehosted ground host base fs gs) (added : List Char) :
    Rehosted ground host base (addChars added fs) (addChars added gs) := by
  induction added generalizing fs gs with
  | nil => exact related
  | cons c rest ih => exact ih (related.addChar c)

theorem addElement (related : Rehosted ground host base fs gs) (e : Element) :
    Rehosted ground host base (addElement e fs) (addElement e gs) := by
  obtain ⟨upper, content, rfl, rfl⟩ := related
  cases upper with
  | nil => exact ⟨[], e.onto content, rfl, rfl⟩
  | cons top upper =>
    exact ⟨{ top with content := e.onto top.content } :: upper, content, rfl, rfl⟩

theorem push (related : Rehosted ground host base fs gs) (frame : Frame) :
    Rehosted ground host base (frame :: fs) (frame :: gs) := by
  obtain ⟨upper, content, rfl, rfl⟩ := related
  exact ⟨frame :: upper, content, rfl, rfl⟩

theorem pop {frame : Frame} {rest : List Frame}
    (related : Rehosted ground host base (frame :: rest) gs) (inside : rest ≠ []) :
    ∃ below, gs = frame :: below ∧ Rehosted ground host base rest below := by
  obtain ⟨upper, content, split, rfl⟩ := related
  cases upper with
  | nil =>
    cases split
    exact absurd rfl inside
  | cons top upper =>
    cases split
    exact ⟨_, rfl, upper, content, rfl, rfl⟩

theorem ne_nil (related : Rehosted ground host base fs gs) : gs ≠ [] := by
  obtain ⟨upper, content, -, rfl⟩ := related
  simp

theorem scopeOf_eq (same : ground.scope = host.scope) (related : Rehosted ground host base fs gs) :
    scopeOf fs = scopeOf gs := by
  obtain ⟨upper, content, rfl, rfl⟩ := related
  cases upper with
  | nil => exact same
  | cons top upper => rfl

end Rehosted

namespace State

variable {ground host : Frame} {base gs : List Frame} {s s' : State}

theorem advance_rehosted (same : ground.scope = host.scope)
    (related : Rehosted ground host base s.frames gs) {c : Char}
    (advanced : s.advance .blank c = .ok (.more s')) :
    ∃ gs', advance .blank { s with frames := gs } c = .ok (.more { s' with frames := gs' }) ∧
      Rehosted ground host base s'.frames gs' := by
  generalize reached : Progress.more s' = p at advanced
  unfold advance
  cases advance_moved advanced with
  | adds added mode length legal plain uniform =>
    cases reached
    exact ⟨addChars added gs, uniform gs, related.addChars added⟩
  | starts reading initial =>
    cases reached
    refine ⟨gs, ?_, related⟩
    simp only [step, reading, if_pos initial]
    rfl
  | tags tag next reading stepped =>
    cases reached
    refine ⟨gs, ?_, related⟩
    simp only [step, reading, stepped]
    rfl
  | opens tag label attributes opening reading stepped resolved =>
    cases reached
    refine ⟨_, ?_, related.push _⟩
    rw [related.scopeOf_eq same] at resolved
    simp only [step, reading, stepped, openElement, resolved]
    rfl
  | empties tag label attributes opening reading stepped resolved inside =>
    cases reached
    refine ⟨_, ?_, related.addElement _⟩
    rw [related.scopeOf_eq same] at resolved
    have occupied : gs.isEmpty = false := by simpa using related.ne_nil
    simp only [step, reading, stepped, openElement, resolved, occupied]
    rfl
  | emptyRoot => cases reached
  | closes label spaced frame rest reading last nonempty innermost deep matching inside =>
    cases reached
    rw [innermost] at related
    obtain ⟨below, rfl, lower⟩ := related.pop inside
    refine ⟨_, ?_, lower.addElement _⟩
    subst last matching
    have occupied : below.isEmpty = false := by simpa using lower.ne_nil
    rw [step_close (s := { s with frames := frame :: below }) nonempty reading]
    simp [closeElement, occupied, Surroundings.document]
    rfl
  | closesRoot => cases reached
  | replaces reference name text frames reading declared replaced => cases declared

theorem run_rehosted (same : ground.scope = host.scope) {text : List Char}
    (related : Rehosted ground host base s.frames gs) (reached : s.run .blank text = some s') :
    ∃ gs', run .blank { s with frames := gs } text = some { s' with frames := gs' } ∧
      Rehosted ground host base s'.frames gs' := by
  induction text generalizing s gs with
  | nil =>
    cases reached
    exact ⟨gs, rfl, related⟩
  | cons c rest ih =>
    obtain ⟨next, advanced, later⟩ := run_cons_eq_some reached
    obtain ⟨gs', moved, related'⟩ := advance_rehosted same related advanced
    rw [run_cons moved]
    exact ih related' later

end State

end Apidoc.Xml
