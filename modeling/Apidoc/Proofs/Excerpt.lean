import Apidoc.Excerpt
import Apidoc.Proofs.Text.Tidy

/-!
The form of excerpts. Whatever white space a text has, its excerpt has single spaces only, each
between two other characters, and is no longer than asked for. A cut may fall inside a word or right
behind a space, and the ellipsis keeps the form in either case; so the excerpt of an excerpt is that
excerpt.
-/
namespace Apidoc

namespace Text

variable {s : List Char}

/-- A text on one line: no white space but single spaces, and none at the ends. -/
structure SinglySpaced (s : List Char) : Prop where
  blanks : ∀ c ∈ s, isBlank c = true → c = ' '
  start : s.head? ≠ some ' '
  finish : s.getLast? ≠ some ' '
  single : ¬[' ', ' '] <:+: s

def line (ws : List (List Char)) : List Char :=
  [' '].intercalate ws

theorem free_of_mem_words {t : List Char} (there : t ∈ words s) :
    t ≠ [] ∧ ∀ c ∈ t, isBlank c = false := by
  obtain ⟨nonempty, free, -⟩ := mem_piecesBetween_iff.mp there
  exact ⟨nonempty, free⟩

theorem space_of_mem_line {c : Char} (there : c ∈ line (words s)) (blank : isBlank c = true) :
    c = ' ' := by
  rcases mem_intercalate there with space | ⟨word, listed, inside⟩
  · exact List.mem_singleton.mp space
  · rw [(free_of_mem_words listed).2 c inside] at blank
    cases blank

theorem tidy_line (some : words s ≠ []) : Tidy ' ' (line (words s)) := by
  apply Tidy.intercalate some
  intro t there
  obtain ⟨nonempty, free⟩ := free_of_mem_words there
  refine ⟨nonempty, ?_⟩
  intro space
  exact absurd (free ' ' space) (by decide)

/-- What excerpts look like: nothing, or words with single spaces between them. -/
def Lined (s : List Char) : Prop :=
  s = [] ∨ Tidy ' ' s ∧ ∀ c ∈ s, isBlank c = true → c = ' '

theorem lined_line (s : List Char) : Lined (line (words s)) := by
  by_cases none : words s = []
  · rw [none]
    exact Or.inl rfl
  · exact Or.inr ⟨tidy_line none, fun c => space_of_mem_line⟩

theorem Lined.cut (lined : Lined s) (n : Nat) : Lined (s.take n ++ ['…']) := by
  have mark : Tidy ' ' ['…'] := .single (by decide)
  refine Or.inr ⟨?_, ?_⟩
  · rcases lined with rfl | ⟨tidy, -⟩
    · simpa using mark
    · exact tidy.take_append (List.cons_ne_nil _ _) (by decide) n
  · intro c there blank
    rcases List.mem_append.mp there with kept | last
    · rcases lined with rfl | ⟨-, blanks⟩
      · simp at kept
      · exact blanks c (List.mem_of_mem_take kept) blank
    · rw [List.mem_singleton.mp last] at blank
      exact absurd blank (by decide)

theorem Lined.singlySpaced (lined : Lined s) : SinglySpaced s := by
  rcases lined with rfl | ⟨tidy, blanks⟩
  · exact ⟨by simp, by simp, by simp, by simp⟩
  · exact ⟨blanks, tidy.head?_ne, tidy.getLast?_ne, tidy.not_twice⟩

/-- A text of this form is the line of its own words. -/
theorem Lined.line_words (lined : Lined s) : line (words s) = s := by
  rcases lined with rfl | ⟨tidy, blanks⟩
  · rfl
  · have same : ∀ c ∈ s, isBlank c = (c == ' ') := by
      intro c there
      by_cases space : c = ' '
      · subst space
        decide
      · have filled : isBlank c = false := by
          rw [← Bool.not_eq_true]
          exact fun blank => space (blanks c there blank)
        simp [filled, space]
    rw [line, words, piecesBetween, splitAtEach_congr same]
    exact intercalate_piecesBetween tidy.nil_not_mem_splitAtEach

end Text

open Text (Pieces SinglySpaced Lined line)

variable {text : String} {width : Int}

theorem toList_excerpt_of_le (fits : (line (Text.words text.toList)).length ≤ width) :
    (excerpt text width).toList = line (Text.words text.toList) := by
  unfold excerpt
  split
  · next empty =>
    rw [String.isEmpty_iff.mp empty]
    rfl
  · have notOver : ¬((line (Text.words text.toList)).length : Int) > width := by omega
    rw [line] at notOver ⊢
    simp only [if_neg notOver, String.toList_ofList]

theorem toList_excerpt_of_lt (some : 1 ≤ width)
    (long : width < (line (Text.words text.toList)).length) :
    (excerpt text width).toList =
      (line (Text.words text.toList)).take (width - 1).toNat ++ ['…'] := by
  unfold excerpt
  split
  · next empty =>
    rw [String.isEmpty_iff.mp empty] at long
    have none : (line (Text.words "".toList)).length = 0 := rfl
    omega
  · rw [line] at long ⊢
    simp only [if_pos long, String.toList_ofList, Text.takeUpTo_of_nonneg (show 0 ≤ width - 1 by omega)]

theorem lined_excerpt (text : String) (some : 1 ≤ width) : Lined (excerpt text width).toList := by
  by_cases fits : (line (Text.words text.toList)).length ≤ width
  · rw [toList_excerpt_of_le fits]
    exact Text.lined_line text.toList
  · rw [toList_excerpt_of_lt some (by omega)]
    exact (Text.lined_line text.toList).cut _

theorem length_excerpt_le (text : String) (some : 1 ≤ width) :
    (excerpt text width).toList.length ≤ width := by
  by_cases fits : (line (Text.words text.toList)).length ≤ width
  · rwa [toList_excerpt_of_le fits]
  · rw [toList_excerpt_of_lt some (by omega)]
    simp only [List.length_append, List.length_take, List.length_singleton]
    omega

theorem excerpt_of_lined (lined : Lined text.toList) (short : text.toList.length ≤ width) :
    excerpt text width = text := by
  have fits : (line (Text.words text.toList)).length ≤ width := by rwa [lined.line_words]
  apply String.toList_injective
  rw [toList_excerpt_of_le fits, lined.line_words]

structure IsExcerpt (ws : List (List Char)) (width : Int) (result : String) : Prop where
  short : result.length ≤ width
  spaced : SinglySpaced result.toList
  whole : (line ws).length ≤ width → result.toList = line ws
  cut : width < (line ws).length → result.toList = (line ws).take (width - 1).toNat ++ ['…']
  again : excerpt result width = result

/-- A text has its words in one way only, and its excerpt is the line of these words, cut if that is
too long, in a form that a second excerpt leaves alone. -/
theorem excerpt_normalizes (text : String) {width : Int} (some : 1 ≤ width) :
    ∃ ws, (∀ other, Pieces Text.isBlank text.toList other ↔ other = ws) ∧
      IsExcerpt ws width (excerpt text width) := by
  have lined := lined_excerpt text some
  have short := length_excerpt_le text some
  refine ⟨Text.words text.toList, fun other => Text.pieces_iff, ?_⟩
  exact
    { short := by rwa [String.length_toList] at short
      spaced := lined.singlySpaced
      whole := toList_excerpt_of_le
      cut := toList_excerpt_of_lt some
      again := excerpt_of_lined lined short }

/-- A cut right behind a space, in a text with other white space around its words. -/
theorem excerpt_normalizes_cut :
    (1 : Int) ≤ 4 ∧ excerpt "\u3000ab\n\tcd " 4 = "ab …" ∧
      ∃ ws, (∀ other, Pieces Text.isBlank "\u3000ab\n\tcd ".toList other ↔ other = ws) ∧
        IsExcerpt ws 4 (excerpt "\u3000ab\n\tcd " 4) :=
  ⟨by decide, by decide +kernel, excerpt_normalizes "\u3000ab\n\tcd " (by decide)⟩

end Apidoc
