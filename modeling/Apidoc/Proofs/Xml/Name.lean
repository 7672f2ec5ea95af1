import Mathlib.Data.List.TakeWhile
import Apidoc.Xml.Char
import Apidoc.Xml.Scope
import Apidoc.Proofs.Text.Stretch

/-!
Names, with a colon and without. In a tag each side of a colon is a name; a declaration is content
with any name characters behind it.
-/
namespace Apidoc.Xml

def isName : List Char → Bool
  | [] => false
  | c :: rest => isNameStart c && rest.all isNameChar

/-- A name that may have one colon inside, with a name on both sides. -/
def IsLabel (label : List Char) : Prop :=
  isName label = true ∨
    ∃ front rest, label = front ++ ':' :: rest ∧ isName front = true ∧ isName rest = true

theorem isName_cons {c : Char} {rest : List Char} :
    isName (c :: rest) = true ↔ isNameStart c = true ∧ ∀ d ∈ rest, isNameChar d = true := by
  simp [isName]

theorem exists_of_isName {name : List Char} (named : isName name = true) :
    ∃ c rest, name = c :: rest ∧ isNameStart c = true ∧ ∀ d ∈ rest, isNameChar d = true := by
  cases name with
  | nil => cases named
  | cons c rest => exact ⟨c, rest, rfl, isName_cons.mp named⟩

theorem exists_cons_of_isLabel {label : List Char} (labelled : IsLabel label) :
    ∃ c rest, label = c :: rest := by
  rcases labelled with named | ⟨front, rest, rfl, named, -⟩
  · obtain ⟨c, rest, rfl, -⟩ := exists_of_isName named
    exact ⟨c, rest, rfl⟩
  · obtain ⟨c, more, rfl, -⟩ := exists_of_isName named
    exact ⟨c, _, rfl⟩

theorem chars_of_isLabel {c : Char} {rest : List Char} (labelled : IsLabel (c :: rest)) :
    isNameStart c = true ∧ ∀ d ∈ rest, (isNameChar d || d == ':') = true := by
  rcases labelled with named | ⟨front, back, split, named, named'⟩
  · obtain ⟨initial, others⟩ := isName_cons.mp named
    refine ⟨initial, ?_⟩
    intro d there
    rw [others d there]
    rfl
  · obtain ⟨d, more, rfl, initial, others⟩ := exists_of_isName named
    obtain ⟨e, last, rfl, initial', others'⟩ := exists_of_isName named'
    rw [List.cons_append] at split
    obtain ⟨rfl, rfl⟩ := List.cons_eq_cons.mp split
    refine ⟨initial, ?_⟩
    intro d there
    rcases List.mem_append.mp there with before | after
    · rw [others d before]
      rfl
    · rcases List.mem_cons.mp after with rfl | after
      · decide
      · rcases List.mem_cons.mp after with rfl | after
        · simp [isNameChar, initial']
        · rw [others' d after]
          rfl

theorem isName_append {name : List Char} {c : Char} (named : isName name = true)
    (goesOn : isNameChar c = true) : isName (name ++ [c]) = true := by
  obtain ⟨d, rest, rfl, initial, others⟩ := exists_of_isName named
  refine isName_cons.mpr ⟨initial, ?_⟩
  intro e there
  rcases List.mem_append.mp there with before | last
  · exact others e before
  · rw [List.mem_singleton.mp last]
    exact goesOn

def IsKey (key : List Char) : Prop :=
  isName key = true ∨ ∃ front c rest, key = front ++ ':' :: c :: rest ∧ isName front = true ∧
    ∀ d ∈ c :: rest, isNameChar d = true

theorem isNameChar_of_isNameStart {c : Char} (initial : isNameStart c = true) :
    isNameChar c = true := by
  simp [isNameChar, initial]

theorem nameChars_of_isName {name : List Char} (named : isName name = true) :
    ∀ d ∈ name, isNameChar d = true := by
  obtain ⟨c, rest, rfl, initial, others⟩ := exists_of_isName named
  intro d there
  rcases List.mem_cons.mp there with rfl | later
  · exact isNameChar_of_isNameStart initial
  · exact others d later

theorem IsLabel.isKey {label : List Char} (labelled : IsLabel label) : IsKey label := by
  rcases labelled with named | ⟨front, rest, rfl, named, named'⟩
  · exact Or.inl named
  · obtain ⟨c, more, rfl, -⟩ := exists_of_isName named'
    exact Or.inr ⟨front, c, more, rfl, named, nameChars_of_isName named'⟩

theorem colon_not_mem {chars : List Char} (named : ∀ d ∈ chars, isNameChar d = true) :
    ':' ∉ chars := by
  intro there
  exact absurd (named ':' there) (by decide)

theorem splitLabel_plain {label : List Char} (plain : ':' ∉ label) :
    splitLabel label = (none, label) := by
  have none_left : label.dropWhile (· ≠ ':') = [] := by
    rw [List.dropWhile_eq_nil_iff]
    intro c there
    simpa using fun same : c = ':' => plain (same ▸ there)
  rw [splitLabel, none_left]

theorem splitLabel_append {front : List Char} (plain : ':' ∉ front) (rest : List Char) :
    splitLabel (front ++ ':' :: rest) = (some front, rest) := by
  have apart : ∀ c ∈ front, decide (c ≠ ':') = true := by
    intro c there
    simpa using fun same : c = ':' => plain (same ▸ there)
  have stop : ∀ c ∈ (':' :: rest).head?, decide (c ≠ ':') = false := by simp
  rw [splitLabel, Text.dropWhile_stretch apart stop, Text.takeWhile_stretch apart stop]

end Apidoc.Xml
