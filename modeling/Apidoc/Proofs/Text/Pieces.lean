import Mathlib.Data.List.TakeWhile
import Apidoc.Text.Blank

/-!
The pieces of a text between separators. They are its longest stretches without a separator, they
may be found on the two sides of any separator apart, and texts that are joined by a separator are
the pieces of what comes out.
-/
namespace Apidoc.Text

variable {sep : Char → Bool} {s t : List Char}

theorem splitAtEach_eq_splitOnP (sep : Char → Bool) (s : List Char) :
    splitAtEach sep s = s.splitOnP sep := by
  induction s with
  | nil => rfl
  | cons c rest ih =>
    rw [splitAtEach, ih, List.splitOnP_cons_eq_if_modifyHead]
    split
    · rfl
    · cases pieces : rest.splitOnP sep with
      | nil => exact absurd pieces (List.splitOnP_ne_nil sep rest)
      | cons first others => rfl

theorem piecesBetween_append_cons {c : Char} (separates : sep c = true) (s t : List Char) :
    piecesBetween sep (s ++ c :: t) = piecesBetween sep s ++ piecesBetween sep t := by
  simp only [piecesBetween, splitAtEach_eq_splitOnP, List.splitOnP_append_cons s t separates,
    List.filter_append]

theorem piecesBetween_cons {c : Char} (separates : sep c = true) (s : List Char) :
    piecesBetween sep (c :: s) = piecesBetween sep s :=
  piecesBetween_append_cons separates [] s

theorem piecesBetween_eq_singleton (nonempty : s ≠ []) (free : ∀ c ∈ s, sep c = false) :
    piecesBetween sep s = [s] := by
  simp [piecesBetween, splitAtEach_eq_splitOnP, List.splitOnP_eq_singleton free, nonempty]

/-- Separators in front of a text change nothing. -/
theorem piecesBetween_dropWhile (sep : Char → Bool) (s : List Char) :
    piecesBetween sep (s.dropWhile sep) = piecesBetween sep s := by
  induction s with
  | nil => rfl
  | cons c rest ih =>
    by_cases separates : sep c = true
    · rw [List.dropWhile_cons_of_pos separates, ih, piecesBetween_cons separates]
    · rw [List.dropWhile_cons_of_neg separates]

/-- One of the longest stretches of `s` without a separator: it is not empty, and on either side
of it a separator stands or nothing. -/
structure IsStretch (sep : Char → Bool) (s t : List Char) : Prop where
  nonempty : t ≠ []
  free : ∀ c ∈ t, sep c = false
  longest : ∃ before after, s = before ++ t ++ after ∧
    (∀ c ∈ before.getLast?, sep c = true) ∧ (∀ c ∈ after.head?, sep c = true)

theorem exists_first_separator {c : Char} (there : c ∈ s) (separates : sep c = true) :
    ∃ front d rest, s = front ++ d :: rest ∧ (∀ c ∈ front, sep c = false) ∧ sep d = true := by
  obtain ⟨d, rest, found⟩ : ∃ d rest, s.dropWhile (!sep ·) = d :: rest := by
    apply List.exists_cons_of_ne_nil
    intro none
    simpa [separates] using List.dropWhile_eq_nil_iff.mp none c there
  refine ⟨s.takeWhile (!sep ·), d, rest, ?_, ?_, ?_⟩
  · rw [← found, List.takeWhile_append_dropWhile]
  · intro c front
    simpa using List.mem_takeWhile_imp front
  · have stopped := List.head?_dropWhile_not (!sep ·) s
    simpa [found] using stopped

theorem isStretch_of_mem (there : t ∈ piecesBetween sep s) : IsStretch sep s t := by
  -- By induction on the length: the stretch is what stands before the first separator, or comes after.
  induction size : s.length using Nat.strongRecOn generalizing s with
  | ind n ih =>
    by_cases single : ∀ c ∈ s, sep c = false
    · have nonempty : s ≠ [] := by
        rintro rfl
        cases there
      rw [piecesBetween_eq_singleton nonempty single, List.mem_singleton] at there
      subst there
      exact ⟨nonempty, single, [], [], by simp, by simp, by simp⟩
    · obtain ⟨c, listed, separates⟩ : ∃ c ∈ s, sep c = true := by simpa using single
      obtain ⟨front, d, rest, rfl, free, separates⟩ := exists_first_separator listed separates
      rw [piecesBetween_append_cons separates, List.mem_append] at there
      rcases there with first | later
      · have nonempty : front ≠ [] := by
          rintro rfl
          cases first
        rw [piecesBetween_eq_singleton nonempty free, List.mem_singleton] at first
        subst first
        exact ⟨nonempty, free, [], d :: rest, by simp, by simp, by simpa using separates⟩
      · have shorter : rest.length < n := by
          rw [← size, List.length_append, List.length_cons]
          omega
        obtain ⟨nonempty, free, before, after, rfl, left, right⟩ := ih _ shorter later rfl
        refine ⟨nonempty, free, front ++ d :: before, after, by simp, ?_, right⟩
        cases before with
        | nil => simpa using separates
        | cons e more => simpa using left

/-- The pieces of a text are its longest stretches without a separator. -/
theorem mem_piecesBetween_iff : t ∈ piecesBetween sep s ↔ IsStretch sep s t := by
  refine ⟨isStretch_of_mem, ?_⟩
  rintro ⟨nonempty, free, before, after, rfl, left, right⟩
  have inFront : t ∈ piecesBetween sep (t ++ after) := by
    cases after with
    | nil => simp [piecesBetween_eq_singleton nonempty free]
    | cons d after =>
      rw [piecesBetween_append_cons (right d rfl), piecesBetween_eq_singleton nonempty free]
      simp
  rcases List.eq_nil_or_concat before with rfl | ⟨before, d, rfl⟩
  · exact inFront
  · have separates : sep d = true := left d (by simp)
    rw [List.append_assoc, List.concat_eq_append, List.append_assoc, List.singleton_append,
      piecesBetween_append_cons separates]
    exact List.mem_append_right _ inFront

/-- A text cut up from the left: separators are passed over, and a piece ends where the next one
stands or the text does. -/
inductive Pieces (sep : Char → Bool) : List Char → List (List Char) → Prop
  | nil : Pieces sep [] []
  | skip {c : Char} {s : List Char} {ts : List (List Char)} :
      sep c = true → Pieces sep s ts → Pieces sep (c :: s) ts
  | piece {t s : List Char} {ts : List (List Char)} :
      t ≠ [] → (∀ c ∈ t, sep c = false) → (∀ c ∈ s.head?, sep c = true) → Pieces sep s ts →
      Pieces sep (t ++ s) (t :: ts)

theorem Pieces.eq_piecesBetween {ts : List (List Char)} (pieces : Pieces sep s ts) :
    ts = piecesBetween sep s := by
  induction pieces with
  | nil => rfl
  | skip separates _ ih => rw [ih, piecesBetween_cons separates]
  | @piece t s ts nonempty free ends _ ih =>
    cases s with
    | nil =>
      rw [List.append_nil, piecesBetween_eq_singleton nonempty free, ih]
      rfl
    | cons d rest =>
      have separates : sep d = true := ends d rfl
      rw [piecesBetween_append_cons separates, piecesBetween_eq_singleton nonempty free, ih,
        piecesBetween_cons separates, List.singleton_append]

theorem pieces_piecesBetween (sep : Char → Bool) (s : List Char) :
    Pieces sep s (piecesBetween sep s) := by
  induction size : s.length using Nat.strongRecOn generalizing s with
  | ind n ih =>
    by_cases single : ∀ c ∈ s, sep c = false
    · cases s with
      | nil => exact .nil
      | cons c rest =>
        rw [piecesBetween_eq_singleton (List.cons_ne_nil c rest) single]
        simpa using Pieces.piece (List.cons_ne_nil c rest) single (by simp) .nil
    · obtain ⟨c, listed, separates⟩ : ∃ c ∈ s, sep c = true := by simpa using single
      obtain ⟨front, d, rest, rfl, free, separates⟩ := exists_first_separator listed separates
      have shorter : rest.length < n := by
        rw [← size, List.length_append, List.length_cons]
        omega
      have later : Pieces sep (d :: rest) (piecesBetween sep rest) :=
        .skip separates (ih _ shorter rest rfl)
      rw [piecesBetween_append_cons separates]
      by_cases nonempty : front = []
      · subst nonempty
        exact later
      · rw [piecesBetween_eq_singleton nonempty free]
        exact .piece nonempty free (by simpa using separates) later

/-- Which texts are the pieces, and in which order, is settled by cutting from the left. -/
theorem pieces_iff {ts : List (List Char)} : Pieces sep s ts ↔ ts = piecesBetween sep s := by
  constructor
  · exact Pieces.eq_piecesBetween
  · rintro rfl
    exact pieces_piecesBetween sep s

theorem splitAtEach_congr {other : Char → Bool} (same : ∀ c ∈ s, sep c = other c) :
    splitAtEach sep s = splitAtEach other s := by
  induction s with
  | nil => rfl
  | cons c rest ih =>
    rw [splitAtEach, splitAtEach, same c List.mem_cons_self,
      ih fun d there => same d (List.mem_cons_of_mem c there)]

theorem mem_of_mem_piecesBetween {c : Char} (there : t ∈ piecesBetween sep s) (inside : c ∈ t) :
    c ∈ s := by
  obtain ⟨-, -, before, after, rfl, -, -⟩ := mem_piecesBetween_iff.mp there
  simp [inside]

theorem mem_intercalate {sep : List Char} {pieces : List (List Char)} {c : Char}
    (there : c ∈ sep.intercalate pieces) : c ∈ sep ∨ ∃ piece ∈ pieces, c ∈ piece := by
  induction pieces with
  | nil => cases there
  | cons piece pieces ih =>
    cases pieces with
    | nil =>
      rw [List.intercalate_singleton] at there
      exact Or.inr ⟨piece, List.mem_cons_self, there⟩
    | cons next pieces =>
      rw [List.intercalate_cons_cons, List.mem_append, List.mem_append] at there
      rcases there with (here | between) | later
      · exact Or.inr ⟨piece, List.mem_cons_self, here⟩
      · exact Or.inl between
      · rcases ih later with between | ⟨other, listed, inside⟩
        · exact Or.inl between
        · exact Or.inr ⟨other, List.mem_cons_of_mem piece listed, inside⟩

theorem piecesBetween_eq_splitAtEach (nonempty : [] ∉ splitAtEach sep s) :
    piecesBetween sep s = splitAtEach sep s := by
  rw [piecesBetween, List.filter_eq_self]
  intro piece there
  rw [decide_eq_true_eq]
  rintro rfl
  exact nonempty there

/-- Texts without `r` that are joined by it are the pieces of what comes out. -/
theorem piecesBetween_intercalate {r : Char} {ts : List (List Char)} (nonempty : [] ∉ ts)
    (free : ∀ t ∈ ts, r ∉ t) : piecesBetween (· == r) ([r].intercalate ts) = ts := by
  cases ts with
  | nil => rfl
  | cons t others =>
    have cut : splitAtEach (· == r) ([r].intercalate (t :: others)) = t :: others := by
      rw [splitAtEach_eq_splitOnP, ← List.splitOn_eq_splitOnP]
      exact List.splitOn_intercalate r free (List.cons_ne_nil t others)
    rw [piecesBetween_eq_splitAtEach, cut]
    rwa [cut]

/-- A text in which `r` encloses no empty piece is its pieces, joined by `r`. -/
theorem intercalate_piecesBetween {r : Char} (nonempty : [] ∉ splitAtEach (· == r) s) :
    [r].intercalate (piecesBetween (· == r) s) = s := by
  rw [piecesBetween_eq_splitAtEach nonempty, splitAtEach_eq_splitOnP, ← List.splitOn_eq_splitOnP,
    List.intercalate_splitOn]

end Apidoc.Text
