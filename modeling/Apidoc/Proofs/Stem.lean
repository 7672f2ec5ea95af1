import Apidoc.Proofs.Settings.Checked
import Apidoc.Stem

/-!
Replacements without a backslash are plain text, so that every id with a character in it has a stem.
Settings that have been checked have such a replacement unless it is the backslash itself.
-/
namespace Apidoc

namespace Stem

theorem marks_plain {s : List Char} (plain : '\\' ∉ s) : marks s = s.map .plain := by
  induction s with
  | nil => rfl
  | cons c rest ih =>
    simp only [List.mem_cons, not_or] at plain
    rw [marks, ih plain.2, List.map_cons]
    · intro same _
      exact plain.1 same.symm
    · intro _ _ same _
      exact plain.1 same.symm

theorem lookAhead_plain (template : String) (s : List Char) :
    lookAhead template (s.map .plain) = .ok () := by
  cases s <;> rfl

theorem readMarks_plain (template : String) (s : List Char) :
    readMarks template none (s.map .plain) = .ok (s.map fun c => .literal [c]) := by
  induction s with
  | nil => rfl
  | cons c rest ih =>
    rw [List.map_cons, readMarks, lookAhead_plain, ih]
    rfl

/-- A template without a backslash stands for itself. -/
theorem read_plain {template : String} (plain : '\\' ∉ template.toList) :
    Template.read template = .ok (template.toList.map fun c => .literal [c]) := by
  unfold Template.read
  simp only [marks_plain plain, lookAhead_plain, readMarks_plain]
  rfl

theorem render_plain (options : Options) (plain : '\\' ∉ options.replacement.toList) {id : String}
    (nonempty : id ≠ "") :
    ∃ stem, render options id = .ok stem := by
  have some : id.isEmpty = false := by simpa using nonempty
  simp only [render, some, read_plain plain]
  exact ⟨_, rfl⟩

end Stem

namespace Settings

theorem replacement_cases {s : String} (short : s.length ≤ 1) :
    s = "" ∨ ∃ r, s = String.singleton r := by
  rw [← String.length_toList] at short
  cases chars : s.toList with
  | nil => exact .inl (String.toList_injective chars)
  | cons r rest =>
    rw [chars, List.length_cons] at short
    have none : rest = [] := List.length_eq_zero_iff.mp (by omega)
    refine .inr ⟨r, String.toList_injective ?_⟩
    rw [chars, none, String.toList_singleton]

theorem replacement_plain {given : Values} {settings : Settings}
    (accepted : ofValues given = .ok settings) (other : settings.replacement ≠ "\\") :
    '\\' ∉ settings.replacement.toList := by
  have short : settings.replacement.length ≤ 1 := (ofValues_ok accepted .replacement).2
  rcases replacement_cases short with empty | ⟨r, single⟩
  · simp [empty]
  · rw [single, String.toList_singleton, List.mem_singleton]
    rintro rfl
    exact other single

end Settings

end Apidoc
