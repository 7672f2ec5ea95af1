import Apidoc.Console.Wrap

/-!
Tables: columns as wide as their widest cell, between rules, with a title on top. Where the console
is too narrow for that, the widest columns give way first.
-/
namespace Apidoc.Console

open Text (cells)

/-- A column; where it does not wrap, each line of its texts stays on one line and is cut. -/
structure Column where
  heading : List Char
  wraps : Bool := true

structure Table where
  title : List Char
  columns : List Column
  rows : List (List (List Char))

def endsLine (c : Char) : Bool :=
  let n := c.toNat
  (0x0A ≤ n && n ≤ 0x0D) || (0x1C ≤ n && n ≤ 0x1E) || n == 0x85 || n == 0x2028 || n == 0x2029

def textWidth (s : List Char) : Nat :=
  ((Text.splitAtEach endsLine s).map cells).foldl max 0

structure Span where
  wraps : Bool
  width : Nat
  deriving DecidableEq, Repr

namespace Span

def total (spans : List Span) : Nat :=
  spans.foldr (·.width + ·) 0

/-- A quotient rounded to the nearest whole number, a half to the even neighbour. -/
def roundHalfEven (n d : Nat) : Nat :=
  let twice := 2 * (n % d)
  if twice < d || (twice = d && n / d % 2 = 0) then n / d else n / d + 1

/-- Takes `amount` away from spans, in equal parts from those of which something may be taken;
`parts` of them are left. -/
def takeEvenly (most : Span → Nat) (amount parts : Nat) : List Span → List Span
  | [] => []
  | s :: rest =>
    if most s = 0 then s :: takeEvenly most amount parts rest
    else
      let share := min (most s) (roundHalfEven amount parts)
      { s with width := s.width - share } :: takeEvenly most (amount - share) (parts - 1) rest

/-- Takes `amount` away from spans, but of each no more than is said. -/
def reduce (most : Span → Nat) (amount : Nat) (spans : List Span) : List Span :=
  takeEvenly most amount (spans.countP (most · ≠ 0)) spans

/-- The greatest width of a span that wraps and is narrower than `bound`; zero if there is none. -/
def widestBelow (bound : Nat) (spans : List Span) : Nat :=
  ((spans.filter fun s => s.wraps && s.width < bound).map (·.width)).max?.getD 0

def widest (spans : List Span) : Nat :=
  widestBelow (total spans + 1) spans

def slack (excess : Nat) (spans : List Span) (s : Span) : Nat :=
  if s.wraps && s.width = widest spans then
    min excess (widest spans - widestBelow (widest spans) spans)
  else 0

theorem roundHalfEven_one (n : Nat) : roundHalfEven n 1 = n := by
  simp [roundHalfEven, Nat.mod_one]

section Reduce

variable {most : Span → Nat}

theorem total_takeEvenly_le (most : Span → Nat) (amount parts : Nat) (spans : List Span) :
    total (takeEvenly most amount parts spans) ≤ total spans := by
  induction spans generalizing amount parts with
  | nil => exact Nat.le_refl _
  | cons s rest ih =>
    unfold takeEvenly
    split
    · have later := ih amount parts
      simp only [total, List.foldr_cons] at later ⊢
      omega
    · have later := ih (amount - min (most s) (roundHalfEven amount parts)) (parts - 1)
      simp only [total, List.foldr_cons] at later ⊢
      omega

/-- Where something may be taken, something is: what is too little for the first spans is left for
the last. -/
theorem total_takeEvenly_lt (within : ∀ s, most s ≤ s.width) {amount : Nat} (some : 0 < amount)
    {spans : List Span} (there : 0 < spans.countP (most · ≠ 0)) :
    total (takeEvenly most amount (spans.countP (most · ≠ 0)) spans) < total spans := by
  induction spans with
  | nil => simp at there
  | cons s rest ih =>
    unfold takeEvenly
    by_cases none : most s = 0
    · have same : (s :: rest).countP (most · ≠ 0) = rest.countP (most · ≠ 0) := by simp [none]
      rw [same] at there ⊢
      have later := ih there
      simp only [none, if_true, total, List.foldr_cons] at later ⊢
      omega
    · have count : (s :: rest).countP (most · ≠ 0) = rest.countP (most · ≠ 0) + 1 := by
        simp [none]
      have bound := within s
      rw [count, if_neg none]
      by_cases left : roundHalfEven amount (rest.countP (most · ≠ 0) + 1) = 0
      · have more : 0 < rest.countP (most · ≠ 0) := by
          apply Nat.pos_of_ne_zero
          intro last
          rw [last, Nat.zero_add, roundHalfEven_one] at left
          omega
        have later := ih more
        simp only [left, Nat.min_zero, Nat.sub_zero, Nat.add_sub_cancel, total, List.foldr_cons]
          at later ⊢
        omega
      · have later := total_takeEvenly_le most
          (amount - min (most s) (roundHalfEven amount (rest.countP (most · ≠ 0) + 1)))
          (rest.countP (most · ≠ 0)) rest
        simp only [Nat.add_sub_cancel, total, List.foldr_cons] at later ⊢
        omega

end Reduce

section Narrow

variable {bound excess : Nat} {spans : List Span}

theorem exists_widestBelow (some : widestBelow bound spans ≠ 0) :
    ∃ s ∈ spans, s.wraps = true ∧ s.width < bound ∧ s.width = widestBelow bound spans := by
  unfold widestBelow at some ⊢
  cases greatest : ((spans.filter fun s => s.wraps && s.width < bound).map (·.width)).max? with
  | none =>
    rw [greatest] at some
    exact absurd rfl some
  | some width =>
    obtain ⟨s, there, rfl⟩ := List.mem_map.mp (List.max?_mem greatest)
    simp only [List.mem_filter, Bool.and_eq_true, decide_eq_true_eq] at there
    exact ⟨s, there.1, there.2.1, there.2.2, rfl⟩

theorem widestBelow_lt (some : 0 < bound) : widestBelow bound spans < bound := by
  by_cases none : widestBelow bound spans = 0
  · rwa [none]
  · obtain ⟨s, -, -, below, same⟩ := exists_widestBelow none
    rwa [← same]

theorem slack_le (s : Span) : slack excess spans s ≤ s.width := by
  unfold slack
  split
  · next widest =>
    simp only [Bool.and_eq_true, decide_eq_true_eq] at widest
    omega
  · exact Nat.zero_le _

theorem total_reduce_slack_lt (excessive : 0 < excess) (some : widest spans ≠ 0) :
    total (reduce (slack excess spans) excess spans) < total spans := by
  obtain ⟨s, there, wraps, -, same⟩ := exists_widestBelow some
  have next : widestBelow (widest spans) spans < widest spans :=
    widestBelow_lt (Nat.pos_of_ne_zero some)
  refine total_takeEvenly_lt slack_le excessive (List.countP_pos_iff.mpr ⟨s, there, ?_⟩)
  have width : s.width = widest spans := same
  simp only [slack, wraps, width, Bool.true_and, decide_true, if_true, ne_eq, decide_eq_true_eq]
  omega

end Narrow

/-- Makes the widest of the spans that wrap like the next, until all take `limit` cells or those
that wrap have none left. -/
def narrow (limit : Nat) (spans : List Span) : List Span :=
  if _ : total spans ≤ limit ∨ widest spans = 0 then spans
  else
    let excess := total spans - limit
    narrow limit (reduce (slack excess spans) excess spans)
termination_by total spans
decreasing_by
  next stop =>
    rw [not_or, Nat.not_le] at stop
    exact total_reduce_slack_lt (Nat.sub_pos_of_lt stop.1) stop.2

/-- The spans of columns that would take the given numbers of cells, so that together they take no
more than `limit`. Spans that do not wrap give way last. -/
def fit (limit : Nat) (wanted : List Span) : List Span :=
  let spans := wanted.map fun s => { s with width := max 1 (min limit s.width) }
  if total spans ≤ limit then spans
  else
    let narrowed := narrow limit spans
    reduce (·.width) (total narrowed - limit) narrowed

end Span

structure Rule where
  left : Char
  line : Char
  joint : Char
  right : Char

def Rule.draw (rule : Rule) (widths : List Nat) : List Char :=
  let spans := widths.map fun width => List.replicate width rule.line
  rule.left :: [rule.joint].intercalate spans ++ [rule.right]

def topRule : Rule := ⟨'┏', '━', '┳', '┓'⟩
def headRule : Rule := ⟨'┡', '━', '╇', '┩'⟩
def bottomRule : Rule := ⟨'└', '─', '┴', '┘'⟩

/-- A text on lines of at most `width` cells, which stay as they are if it does not wrap. -/
def layOut (wraps : Bool) (width : Nat) (text : List Char) : List (List Char) :=
  if wraps then wrap width false text
  else
    (Text.splitAtEach (· == '\n') text).map fun line =>
      truncate width false (cropEnd width (expandTabs line))

/-- The lines of a cell; one that is too narrow for text has none. -/
def Span.lines (s : Span) (text : List Char) : List (List Char) :=
  if s.width ≤ 2 then []
  else (layOut s.wraps (s.width - 2) text).map fun line => ' ' :: padded (s.width - 2) line ++ [' ']

namespace Table

def wanted (t : Table) : List Span :=
  let start := t.columns.map fun c => (⟨c.wraps, textWidth c.heading + 2⟩ : Span)
  let widen := fun (s : Span) cell => { s with width := max s.width (textWidth cell + 2) }
  t.rows.foldl (fun spans row => List.zipWith widen spans row) start

def bars (t : Table) : Nat := t.columns.length + 1

def spans (t : Table) (width : Nat) : List Span :=
  Span.fit (width - t.bars) t.wanted

/-- A row as lines, with `bar` between the cells. A cell with fewer lines than others is filled up
below, or above if it is to stand at the bottom. -/
def rowLines (bar : Char) (bottom : Bool) (spans : List Span) (row : List (List Char)) :
    List (List Char) :=
  let columns := List.zipWith Span.lines spans row
  let height := columns.foldl (fun n lines => max n lines.length) 1
  let filled := List.zipWith (fun s lines =>
    let more := List.replicate (height - lines.length) (List.replicate s.width ' ')
    if bottom then more ++ lines else lines ++ more) spans columns
  (List.range height).map fun i =>
    bar :: [bar].intercalate (filled.map fun lines => lines[i]?.getD []) ++ [bar]

def titleLines (t : Table) (width : Nat) : List (List Char) :=
  if t.title.isEmpty then []
  else (wrap width true t.title).map fun line => centred width ' ' (trimEnd line)

def lines (t : Table) (width : Nat) : List (List Char) :=
  let spans := t.spans width
  let widths := spans.map (·.width)
  let all := t.titleLines (Span.total spans + t.bars) ++ [topRule.draw widths]
    ++ rowLines '┃' true spans (t.columns.map (·.heading)) ++ [headRule.draw widths]
    ++ t.rows.flatMap (rowLines '│' false spans) ++ [bottomRule.draw widths]
  all.map fun line => if cells line > width then fitted width line else line

end Table

end Apidoc.Console
