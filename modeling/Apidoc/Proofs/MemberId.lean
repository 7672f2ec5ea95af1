import Mathlib.Data.List.TakeWhile
import Apidoc.MemberId

/-!
What the parts of a member id are: a cut gives back its text, what stands before the last dot
declares, and a name lies below another exactly when a dot and more text follow that one.
-/
namespace Apidoc

theorem cutAtFirst_of_not_mem {mark : Char} {s : List Char} (absent : mark ∉ s) :
    cutAtFirst mark s = (s, none) := by
  have all : ∀ c ∈ s, decide (c ≠ mark) = true := by
    intro c hc
    simp only [ne_eq, decide_eq_true_eq]
    intro same
    exact absent (same ▸ hc)
  simp only [cutAtFirst, List.takeWhile_eq_self_iff.mpr all, List.dropWhile_eq_nil_iff.mpr all,
    List.tail?_nil]

theorem cutAtFirst_append {mark : Char} {a : List Char} (absent : mark ∉ a) (b : List Char) :
    cutAtFirst mark (a ++ mark :: b) = (a, some b) := by
  have all : ∀ c ∈ a, decide (c ≠ mark) = true := by
    intro c hc
    simp only [ne_eq, decide_eq_true_eq]
    intro same
    exact absent (same ▸ hc)
  simp only [cutAtFirst, List.takeWhile_append_of_pos all, List.dropWhile_append_of_pos all]
  simp

theorem cutAtFirst_eq_some_iff {mark : Char} {s front rest : List Char} :
    cutAtFirst mark s = (front, some rest) ↔ s = front ++ mark :: rest ∧ mark ∉ front := by
  constructor
  · intro cut
    by_cases there : mark ∈ s
    · obtain ⟨a, b, rfl, absent⟩ := List.eq_append_cons_of_mem there
      rw [cutAtFirst_append absent, Prod.mk.injEq, Option.some.injEq] at cut
      obtain ⟨rfl, rfl⟩ := cut
      exact ⟨rfl, absent⟩
    · rw [cutAtFirst_of_not_mem there] at cut
      cases cut
  · intro split
    rw [split.1]
    exact cutAtFirst_append split.2 rest

theorem cutAtFirst_fst_not_mem (mark : Char) (s : List Char) : mark ∉ (cutAtFirst mark s).1 := by
  intro there
  have stopped := List.mem_takeWhile_imp there
  simp at stopped

theorem cutAtLast_of_not_mem {mark : Char} {s : List Char} (absent : mark ∉ s) :
    cutAtLast mark s = (none, s) := by
  have turned : mark ∉ s.reverse := by simpa using absent
  simp [cutAtLast, cutAtFirst_of_not_mem turned]

theorem cutAtLast_append {mark : Char} {b : List Char} (a : List Char) (absent : mark ∉ b) :
    cutAtLast mark (a ++ mark :: b) = (some a, b) := by
  have turned : mark ∉ b.reverse := by simpa using absent
  have reversed : (a ++ mark :: b).reverse = b.reverse ++ mark :: a.reverse := by simp
  simp [cutAtLast, reversed, cutAtFirst_append turned]

theorem exists_last_mark {mark : Char} {s : List Char} (there : mark ∈ s) :
    ∃ a b, s = a ++ mark :: b ∧ mark ∉ b := by
  obtain ⟨a, b, same, absent⟩ := List.eq_append_cons_of_mem (List.mem_reverse.mpr there)
  refine ⟨b.reverse, a.reverse, ?_, by simpa using absent⟩
  rw [← List.reverse_reverse s, same]
  simp

theorem cutAtLast_eq_some_iff {mark : Char} {s head : List Char} :
    (cutAtLast mark s).1 = some head ↔ ∃ last, s = head ++ mark :: last ∧ mark ∉ last := by
  constructor
  · intro cut
    by_cases there : mark ∈ s
    · obtain ⟨a, b, rfl, absent⟩ := exists_last_mark there
      rw [cutAtLast_append a absent] at cut
      exact ⟨b, by simpa using cut, absent⟩
    · simp [cutAtLast_of_not_mem there] at cut
  · rintro ⟨last, rfl, absent⟩
    rw [cutAtLast_append head absent]

namespace MemberId

/-- The declaring name is what stands before the last dot. -/
theorem declaringName_eq_some_iff {fullName declaring : String} :
    declaringName fullName = some declaring ↔
      ∃ last, fullName = declaring ++ "." ++ last ∧ '.' ∉ last.toList := by
  simp only [declaringName, Option.map_eq_some_iff, cutAtLast_eq_some_iff]
  constructor
  · rintro ⟨head, ⟨last, same, absent⟩, rfl⟩
    refine ⟨String.ofList last, ?_, by simpa using absent⟩
    apply String.toList_injective
    simp [same]
  · rintro ⟨last, rfl, absent⟩
    exact ⟨declaring.toList, ⟨last.toList, by simp, absent⟩, by simp⟩

theorem declaringName_eq_none_iff {fullName : String} :
    declaringName fullName = none ↔ '.' ∉ fullName.toList := by
  constructor
  · intro none there
    obtain ⟨head, last, same, absent⟩ := exists_last_mark there
    rw [declaringName, same, cutAtLast_append head absent] at none
    cases none
  · intro absent
    rw [declaringName, cutAtLast_of_not_mem absent]
    rfl

theorem length_declaringName_lt {fullName declaring : String}
    (found : declaringName fullName = some declaring) : declaring.length < fullName.length := by
  obtain ⟨last, rfl, -⟩ := declaringName_eq_some_iff.mp found
  simp only [String.length_append]
  have : ".".length = 1 := rfl
  omega

/-- The names above a name are all texts that a dot follows in it. -/
theorem mem_ancestors_iff (name : List Char) (head : List Char) :
    head ∈ ancestors name ↔ ∃ rest, name = head ++ '.' :: rest := by
  induction name using ancestors.induct with
  | case1 name none =>
    rw [ancestors]
    split
    · next cut =>
      simp only [List.not_mem_nil, false_iff]
      rintro ⟨rest, rfl⟩
      have dot : '.' ∈ head ++ '.' :: rest := by simp
      obtain ⟨a, b, same, absent⟩ := exists_last_mark dot
      rw [same, cutAtLast_append a absent] at cut
      cases cut
    · next cut => rw [none] at cut; cases cut
  | case2 name outer cut ih =>
    rw [ancestors]
    split
    · next none => rw [cut] at none; cases none
    · next found same =>
      rw [cut] at same
      cases same
      obtain ⟨last, rfl, absent⟩ := cutAtLast_eq_some_iff.mp cut
      rw [List.mem_cons, ih]
      constructor
      · rintro (rfl | ⟨rest, rfl⟩)
        · exact ⟨last, rfl⟩
        · exact ⟨rest ++ '.' :: last, by simp⟩
      · rintro ⟨rest, same⟩
        rcases List.append_eq_append_iff.mp same with ⟨more, rfl, split⟩ | ⟨more, rfl, split⟩
        · cases more with
          | nil => exact Or.inl (by simp)
          | cons c more =>
            have dot : '.' ∈ last := by
              have tail := (List.cons_eq_cons.mp (by simpa using split)).2
              simp [tail]
            exact False.elim (absent dot)
        · cases more with
          | nil => exact Or.inl (by simp)
          | cons c more =>
            obtain ⟨rfl, -⟩ := List.cons_eq_cons.mp (by simpa using split)
            exact Or.inr ⟨more, rfl⟩

/-- A name lies below one of some names when it is one of them, a dot, and more text. -/
theorem isInsideSome_eq_true_iff {names : List String} {name : String} :
    isInsideSome names name = true ↔ ∃ outer ∈ names, ∃ rest, name = outer ++ "." ++ rest := by
  simp only [isInsideSome, List.any_eq_true, List.contains_iff_mem, mem_ancestors_iff]
  constructor
  · rintro ⟨head, ⟨rest, same⟩, listed⟩
    refine ⟨String.ofList head, listed, String.ofList rest, ?_⟩
    apply String.toList_injective
    simp [same]
  · rintro ⟨outer, listed, rest, rfl⟩
    exact ⟨outer.toList, ⟨rest.toList, by simp⟩, by simpa using listed⟩

/-- An id that is made up of a letter and a name has this letter. -/
theorem letter_split (letter name : String) (noColon : ':' ∉ letter.toList) :
    (split (letter ++ ":" ++ name)).letter = letter := by
  have chars : (letter ++ ":" ++ name).toList = letter.toList ++ ':' :: name.toList := by simp
  simp [split, chars, cutAtFirst_append noColon]

/-- The letter of an id is what stands before its first colon. -/
theorem letter_eq_iff {letter : String} (some : letter ≠ "") (noColon : ':' ∉ letter.toList)
    (id : String) : (split id).letter = letter ↔ ∃ rest, id = letter ++ ":" ++ rest := by
  constructor
  · intro same
    unfold split at same
    split at same
    · exact absurd same.symm some
    · next front rest cut =>
      obtain ⟨chars, -⟩ := cutAtFirst_eq_some_iff.mp cut
      subst same
      exact ⟨String.ofList rest, String.toList_injective (by simp [chars])⟩
  · intro made
    obtain ⟨rest, rfl⟩ := made
    exact letter_split letter rest noColon

/-- An id that is made up of a letter and a name without a parameter list has this full name. -/
theorem fullName_split (letter name : String) (noColon : ':' ∉ letter.toList)
    (noParen : '(' ∉ name.toList) : (split (letter ++ ":" ++ name)).fullName = name := by
  have chars : (letter ++ ":" ++ name).toList = letter.toList ++ ':' :: name.toList := by simp
  simp [split, chars, cutAtFirst_append noColon, cutAtFirst_of_not_mem noParen]

/-- No full name of an id with a letter has a parameter list. -/
theorem paren_not_mem_fullName {id : String} (lettered : (split id).letter ≠ "") :
    '(' ∉ (split id).fullName.toList := by
  unfold split at lettered ⊢
  split at lettered
  · simp at lettered
  · next rest _ =>
    simpa using cutAtFirst_fst_not_mem '(' rest

theorem paren_not_mem_declaringName {fullName declaring : String}
    (noParen : '(' ∉ fullName.toList) (found : declaringName fullName = some declaring) :
    '(' ∉ declaring.toList := by
  obtain ⟨last, rfl, -⟩ := declaringName_eq_some_iff.mp found
  intro there
  exact noParen (by simp [there])

end MemberId

end Apidoc
