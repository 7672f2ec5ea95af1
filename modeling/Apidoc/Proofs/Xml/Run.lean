import Apidoc.Proofs.Outcome
import Apidoc.Xml.Document

/-!
Reading a text in pieces is the same as reading it at once. `run` goes through a text inside the
root element; a document whose root is closed at its end is accepted.
-/
namespace Apidoc.Xml

namespace State

def run (doctype : Doctype) : State → List Char → Option State
  | s, [] => some s
  | s, c :: rest =>
    match s.advance doctype c with
    | .ok (.more s) => run doctype s rest
    | _ => none

variable {doctype : Doctype} {s s' : State} {a b : List Char}

theorem run_append (doctype : Doctype) (s : State) (a b : List Char) :
    s.run doctype (a ++ b) = (s.run doctype a).bind fun s' => s'.run doctype b := by
  induction a generalizing s with
  | nil => rfl
  | cons c rest ih =>
    rw [List.cons_append, run, run]
    split
    · exact ih _
    · rfl

theorem run_trans {s'' : State} (first : s.run doctype a = some s')
    (second : s'.run doctype b = some s'') : s.run doctype (a ++ b) = some s'' := by
  rw [run_append, first]
  exact second

theorem run_cons {c : Char} (step : s.advance doctype c = .ok (.more s')) (rest : List Char) :
    s.run doctype (c :: rest) = s'.run doctype rest := by
  rw [run, step]

theorem run_cons_eq_some {c : Char} {s'' : State} (reached : s.run doctype (c :: b) = some s'') :
    ∃ s', s.advance doctype c = .ok (.more s') ∧ s'.run doctype b = some s'' := by
  rw [run] at reached
  split at reached
  · next s' step => exact ⟨s', step, reached⟩
  · cases reached

end State

variable {doctype : Doctype} {s s' : State} {a b : List Char}

theorem readRoot_run (reached : s.run doctype a = some s') (b : List Char) :
    readRoot doctype s (a ++ b) = readRoot doctype s' b := by
  induction a generalizing s with
  | nil =>
    cases reached
    rfl
  | cons c rest ih =>
    obtain ⟨next, step, later⟩ := State.run_cons_eq_some reached
    rw [List.cons_append, readRoot, step]
    exact ih later

/-- A root that is read from two pieces is closed inside the first, or the second is read where the
first has left off. -/
theorem readRoot_append {root : Element} {after : List Char}
    (done : readRoot doctype s (a ++ b) = .ok (root, after)) :
    (∃ rest, after = rest ++ b) ∨
      ∃ s', s.run doctype a = some s' ∧ readRoot doctype s' b = .ok (root, after) := by
  induction a generalizing s with
  | nil => exact Or.inr ⟨s, rfl, done⟩
  | cons c rest ih =>
    rw [List.cons_append, readRoot] at done
    split at done
    · cases done
    · next next step =>
      rw [State.run_cons step]
      exact ih done
    · cases done
      exact Or.inl ⟨rest, rfl⟩

/-- Nothing stands before a root whose name begins with a letter. -/
theorem readProlog_root {c : Char} (letter : c.isAlpha = true) (rest : List Char) :
    readProlog .initial ('<' :: c :: rest) = .ok (.blank, '<' :: c :: rest) := by
  have token : Prolog.scanToken '<' (c :: rest) = .ok (.root, c :: rest) := by
    have scanned : Prolog.scanToken '<' (c :: rest) = Prolog.scanLess (c :: rest) := rfl
    rw [scanned, Prolog.scanLess]
    · simp [letter]
    · rintro rfl
      cases letter
    · rintro rfl
      cases letter
  rw [readProlog, token]
  rfl

theorem parseDocument_root {c : Char} (letter : c.isAlpha = true) (rest : List Char)
    {root : Element} :
    parseDocument ('<' :: c :: rest) = .ok root ↔
      ∃ after, readRoot .blank .initial ('<' :: c :: rest) = .ok (root, after) ∧
        checkEpilog after = .ok () := by
  have unmarked : dropMark ('<' :: c :: rest) = '<' :: c :: rest := rfl
  rw [parseDocument, unmarked, readProlog_root letter]
  simp only [bind_eq_ok_iff]
  constructor
  · rintro ⟨_, ⟨⟩, ⟨root', after⟩, read, _, checked, ⟨⟩⟩
    exact ⟨after, read, checked⟩
  · rintro ⟨after, read, checked⟩
    exact ⟨_, rfl, (root, after), read, (), checked, rfl⟩

end Apidoc.Xml
