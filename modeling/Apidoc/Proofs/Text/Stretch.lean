/-!
The longest stretch at the front of a list whose members all pass a test.
-/
namespace Apidoc.Text

variable {α : Type} {p : α → Bool} {list front back : List α}

theorem stops_dropWhile : ∀ a ∈ (list.dropWhile p).head?, p a = false := by
  intro a first
  have stop := List.head?_dropWhile_not p list
  rw [Option.mem_def.mp first] at stop
  exact stop

section Stretch

variable (all : ∀ a ∈ front, p a = true) (stop : ∀ a ∈ back.head?, p a = false)

include all stop

theorem takeWhile_stretch : (front ++ back).takeWhile p = front := by
  rw [List.takeWhile_append_of_pos all]
  cases back with
  | nil => simp
  | cons a rest =>
    have other : p a = false := stop a rfl
    simp [other]

theorem dropWhile_stretch : (front ++ back).dropWhile p = back := by
  rw [List.dropWhile_append_of_pos all]
  cases back with
  | nil => rfl
  | cons a rest =>
    have other : p a = false := stop a rfl
    simp [other]

end Stretch

end Apidoc.Text
