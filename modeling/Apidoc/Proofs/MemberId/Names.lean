import Apidoc.Catalog.Linking
import Apidoc.Proofs.MemberId

/-!
The names in an id. The cuts at the first colon, the first parenthesis and the last dot leave nothing
out, and no other three parts could be put together to the same id. The search for an enclosing name
goes from dot to dot; it ends after one round for each dot at most, and finds whatever stands before
one of them.
-/
namespace Apidoc.MemberId

section Parts

variable {id : String} {parts : Parts}

/-- An id is a letter, a colon, a full name and perhaps a parameter list; the name is the last segment
of the full name. -/
structure Spells (id : String) (parts : Parts) : Prop where
  letter : ':' ∉ parts.letter.toList
  fullName : '(' ∉ parts.fullName.toList
  name : '.' ∉ parts.name.toList
  whole : ∃ rest, id = parts.letter ++ ":" ++ parts.fullName ++ rest ∧
    (rest = "" ∨ ∃ more, rest = "(" ++ more)
  last : parts.fullName = parts.name ∨ ∃ outer, parts.fullName = outer ++ "." ++ parts.name

theorem exists_front (mark : Char) (s : List Char) :
    ∃ front rest, s = front ++ rest ∧ mark ∉ front ∧ (rest = [] ∨ ∃ more, rest = mark :: more) := by
  by_cases there : mark ∈ s
  · obtain ⟨front, more, rfl, absent⟩ := List.eq_append_cons_of_mem there
    exact ⟨front, mark :: more, rfl, absent, Or.inr ⟨more, rfl⟩⟩
  · exact ⟨s, [], (List.append_nil s).symm, there, Or.inl rfl⟩

theorem exists_segment (mark : Char) (s : List Char) :
    ∃ last, mark ∉ last ∧ (s = last ∨ ∃ head, s = head ++ mark :: last) := by
  by_cases there : mark ∈ s
  · obtain ⟨head, last, rfl, absent⟩ := exists_last_mark there
    exact ⟨last, absent, Or.inr ⟨head, rfl⟩⟩
  · exact ⟨s, there, Or.inl rfl⟩

theorem exists_spells (colon : ':' ∈ id.toList) : ∃ parts, Spells id parts := by
  obtain ⟨letter, after, chars, noColon⟩ := List.eq_append_cons_of_mem colon
  obtain ⟨full, rest, rfl, noParen, ends⟩ := exists_front '(' after
  obtain ⟨name, noDot, segment⟩ := exists_segment '.' full
  refine ⟨⟨String.ofList letter, String.ofList full, String.ofList name⟩, by simpa using noColon,
    by simpa using noParen, by simpa using noDot, ⟨String.ofList rest, ?_, ?_⟩, ?_⟩
  · apply String.toList_injective
    simp [chars]
  · rcases ends with rfl | ⟨more, rfl⟩
    · exact Or.inl rfl
    · exact Or.inr ⟨String.ofList more, String.toList_injective (by simp)⟩
  · rcases segment with rfl | ⟨outer, rfl⟩
    · exact Or.inl rfl
    · exact Or.inr ⟨String.ofList outer, String.toList_injective (by simp)⟩

theorem Spells.eq_split (spells : Spells id parts) : parts = split id := by
  obtain ⟨noColon, noParen, noDot, ⟨rest, rfl, ends⟩, segment⟩ := spells
  have front : cutAtFirst ':' (parts.letter ++ ":" ++ parts.fullName ++ rest).toList =
      (parts.letter.toList, some (parts.fullName.toList ++ rest.toList)) := by
    rw [cutAtFirst_eq_some_iff]
    exact ⟨by simp, noColon⟩
  have full : (cutAtFirst '(' (parts.fullName.toList ++ rest.toList)).1 = parts.fullName.toList := by
    rcases ends with rfl | ⟨more, rfl⟩
    · simp [cutAtFirst_of_not_mem noParen]
    · simp [cutAtFirst_append noParen]
  have name : (cutAtLast '.' parts.fullName.toList).2 = parts.name.toList := by
    rcases segment with same | ⟨outer, same⟩
    · rw [same, cutAtLast_of_not_mem noDot]
    · have chars : parts.fullName.toList = outer.toList ++ '.' :: parts.name.toList := by simp [same]
      rw [chars, cutAtLast_append outer.toList noDot]
  simp only [split, front, full, name, String.ofList_toList]

theorem Spells.alone_iff (spells : Spells id parts) :
    parts.fullName = parts.name ↔ declaringName parts.fullName = none := by
  rw [declaringName_eq_none_iff]
  constructor
  · intro same
    rw [same]
    exact spells.name
  · intro noDot
    rcases spells.last with same | ⟨outer, same⟩
    · exact same
    · rw [same] at noDot
      simp at noDot

theorem Spells.below_iff (spells : Spells id parts) (outer : String) :
    parts.fullName = outer ++ "." ++ parts.name ↔ declaringName parts.fullName = some outer := by
  rw [declaringName_eq_some_iff]
  constructor
  · intro same
    exact ⟨parts.name, same, spells.name⟩
  · rintro ⟨last, same, noDot⟩
    rcases spells.last with alone | ⟨other, below⟩
    · rw [alone] at same
      exact absurd spells.name (by simp [same])
    · -- Both ways of cutting the full name cut it at its last dot.
      have cut := cutAtLast_append outer.toList noDot
      have chars : outer.toList ++ '.' :: last.toList = other.toList ++ '.' :: parts.name.toList := by
        simpa using congrArg String.toList (same.symm.trans below)
      rw [chars, cutAtLast_append other.toList spells.name, Prod.mk.injEq] at cut
      rw [same, String.toList_injective cut.2]

/-- The parts of an id with a colon are the only ones that it can be put together from. The full name
is the name alone, or the declaring name, a dot and the name; and the ids of a type and a namespace
that are made up from a declaring name have that as their full name. -/
theorem split_lossless {id : String} (colon : ':' ∈ id.toList) :
    (∀ parts, Spells id parts ↔ parts = split id) ∧
    ((split id).fullName = (split id).name ↔ declaringName (split id).fullName = none) ∧
    (∀ outer, (split id).fullName = outer ++ "." ++ (split id).name ↔
      declaringName (split id).fullName = some outer) ∧
    ∀ outer, declaringName (split id).fullName = some outer →
      (split (Linking.namespaceId outer)).fullName = outer ∧
        (split (Linking.typeId outer)).fullName = outer := by
  obtain ⟨parts, spells⟩ := exists_spells colon
  have same := spells.eq_split
  subst same
  refine ⟨?_, spells.alone_iff, spells.below_iff, ?_⟩
  · intro other
    constructor
    · exact Spells.eq_split
    · rintro rfl
      exact spells
  · intro outer found
    have noParen := paren_not_mem_declaringName spells.fullName found
    exact ⟨fullName_split "N" outer (by decide) noParen, fullName_split "T" outer (by decide) noParen⟩

/-- An id with a second colon, and with dots in its parameter list. -/
theorem split_lossless_parameters :
    ':' ∈ "M:A..B:C.(D.E)".toList ∧
      split "M:A..B:C.(D.E)" = ⟨"M", "A..B:C.", ""⟩ ∧
      declaringName "A..B:C." = some "A..B:C" ∧
      (split (Linking.typeId "A..B:C")).fullName = "A..B:C" := by
  have colon : ':' ∈ "M:A..B:C.(D.E)".toList := by decide
  have parts : split "M:A..B:C.(D.E)" = ⟨"M", "A..B:C.", ""⟩ := by decide +kernel
  have below : declaringName "A..B:C." = some "A..B:C" := by decide +kernel
  have made := (split_lossless colon).2.2.2 "A..B:C"
  rw [parts] at made
  exact ⟨colon, parts, below, (made below).2⟩

end Parts

section Enclosure

variable {names : List String}

/-- The search for one of `names` above a name, from the name that is to be looked at first. It keeps
the names that it looked at. -/
inductive Climb (names : List String) : Option String → List String → Bool → Prop
  | top : Climb names none [] false
  | here {head : String} : head ∈ names → Climb names (some head) [head] true
  | above {head : String} {seen : List String} {found : Bool} : head ∉ names →
      Climb names (declaringName head) seen found → Climb names (some head) (head :: seen) found

theorem Climb.unique {start : Option String} {seen other : List String} {found answer : Bool}
    (climb : Climb names start seen found) (again : Climb names start other answer) :
    other = seen ∧ answer = found := by
  induction climb generalizing other answer with
  | top =>
    cases again
    exact ⟨rfl, rfl⟩
  | here listed =>
    cases again with
    | here _ => exact ⟨rfl, rfl⟩
    | above unlisted _ => exact absurd listed unlisted
  | above unlisted _ ih =>
    cases again with
    | here listed => exact absurd listed unlisted
    | above _ rest =>
      obtain ⟨rfl, rfl⟩ := ih rest
      exact ⟨rfl, rfl⟩

theorem count_declaringName {name head : String} (found : declaringName name = some head) :
    name.toList.count '.' = head.toList.count '.' + 1 := by
  obtain ⟨last, rfl, noDot⟩ := declaringName_eq_some_iff.mp found
  simp [List.count_eq_zero_of_not_mem noDot]

/-- There is a dot for every name that is looked at. -/
theorem Climb.length_le {start : Option String} {seen : List String} {found : Bool}
    (climb : Climb names start seen found) {name : String} (begun : start = declaringName name) :
    seen.length ≤ name.toList.count '.' := by
  induction climb generalizing name with
  | top => simp
  | here _ =>
    have dots := count_declaringName begun.symm
    rw [List.length_singleton]
    omega
  | above _ _ ih =>
    have dots := count_declaringName begun.symm
    have fewer := ih rfl
    rw [List.length_cons]
    omega

theorem isInsideSome_of_none {name : String} (single : declaringName name = none) :
    isInsideSome names name = false := by
  rw [← Bool.not_eq_true, isInsideSome_eq_true_iff]
  rintro ⟨outer, -, rest, rfl⟩
  rw [declaringName_eq_none_iff] at single
  simp at single

theorem isInsideSome_of_some {name head : String} (found : declaringName name = some head) :
    isInsideSome names name = (names.contains head || isInsideSome names head) := by
  have cut : (cutAtLast '.' name.toList).1 = some head.toList := by
    rw [declaringName, Option.map_eq_some_iff] at found
    obtain ⟨chars, same, rfl⟩ := found
    simpa using same
  have chain : ancestors name.toList = head.toList :: ancestors head.toList := by
    rw [ancestors]
    split
    · next none => rw [cut] at none; cases none
    · next outer same =>
      rw [cut] at same
      cases same
      rfl
  simp only [isInsideSome, chain, List.any_cons, String.ofList_toList]

/-- The search ends, and its answer is the one that is given at once. -/
theorem exists_climb (names : List String) (name : String) :
    ∃ seen, Climb names (declaringName name) seen (isInsideSome names name) := by
  induction size : name.length using Nat.strongRecOn generalizing name with
  | ind n ih =>
    cases found : declaringName name with
    | none =>
      rw [isInsideSome_of_none found]
      exact ⟨[], .top⟩
    | some head =>
      have shorter := length_declaringName_lt found
      rw [isInsideSome_of_some found]
      by_cases listed : head ∈ names
      · have at_once : names.contains head = true := by simpa using listed
        rw [at_once, Bool.true_or]
        exact ⟨[head], .here listed⟩
      · have passed : names.contains head = false := by simpa using listed
        obtain ⟨seen, climb⟩ := ih head.length (by omega) head rfl
        rw [passed, Bool.false_or]
        exact ⟨head :: seen, .above listed climb⟩

/-- Going from dot to dot, the search among any names ends with one answer, after at most as many
rounds as there are dots. It is that one of the names stands before a dot; that the name itself is
among them makes no difference. -/
theorem isInsideSome_climbs (names : List String) (name : String) :
    (∃ seen, seen.length ≤ name.toList.count '.' ∧
      ∀ other found, Climb names (declaringName name) other found ↔
        other = seen ∧ found = isInsideSome names name) ∧
    (isInsideSome names name = true ↔ ∃ outer rest, name = outer ++ "." ++ rest ∧ outer ∈ names) ∧
    isInsideSome (name :: names) name = isInsideSome names name := by
  obtain ⟨seen, climb⟩ := exists_climb names name
  refine ⟨⟨seen, climb.length_le rfl, ?_⟩, ?_, ?_⟩
  · intro other found
    constructor
    · exact climb.unique
    · rintro ⟨rfl, rfl⟩
      exact climb
  · rw [isInsideSome_eq_true_iff]
    constructor
    · rintro ⟨outer, listed, rest, same⟩
      exact ⟨outer, rest, same, listed⟩
    · rintro ⟨outer, rest, same, listed⟩
      exact ⟨outer, listed, rest, same⟩
  · rw [Bool.eq_iff_iff, isInsideSome_eq_true_iff, isInsideSome_eq_true_iff]
    constructor
    · rintro ⟨outer, listed, rest, same⟩
      rcases List.mem_cons.mp listed with rfl | other
      · have length := congrArg String.length same
        simp only [String.length_append] at length
        have dot : ".".length = 1 := rfl
        omega
      · exact ⟨outer, other, rest, same⟩
    · rintro ⟨outer, listed, rest, same⟩
      exact ⟨outer, List.mem_cons_of_mem name listed, rest, same⟩

end Enclosure

end Apidoc.MemberId
