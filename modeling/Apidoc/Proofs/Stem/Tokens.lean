import Mathlib.Data.List.DropRight
import Apidoc.Proofs.Stem
import Apidoc.Proofs.Text.Pieces

/-!
Stems as joined tokens. Where one character replaces the unsafe ones, replacing, collapsing and
stripping come to the same as taking the stretches of the id that are free of both and joining them
by the replacement. What ids have a stem in common can then be read off their tokens, and off the
digest where stems are cut.
-/
namespace Apidoc

namespace Text

theorem rdropWhile_append_cons {drop : Char → Bool} {c : Char} (dropped : drop c = true)
    (s t : List Char) :
    (s ++ c :: t).rdropWhile drop =
      if t.rdropWhile drop = [] then s.rdropWhile drop else s ++ c :: t.rdropWhile drop := by
  have turned : (s ++ c :: t).reverse = t.reverse ++ c :: s.reverse := by simp
  rw [List.rdropWhile, turned, List.dropWhile_append, List.dropWhile_cons_of_pos dropped]
  by_cases none : t.reverse.dropWhile drop = []
  · simp [List.rdropWhile, none]
  · simp [List.rdropWhile, none]

end Text

namespace Stem

def separates (r c : Char) : Bool := isUnsafe c || c == r

/-- The tokens of an id: its longest stretches without unsafe characters and replacements. -/
def tokens (r : Char) (id : String) : List (List Char) :=
  Text.piecesBetween (separates r) id.toList

def joined (r : Char) (id : String) : List Char :=
  [r].intercalate (tokens r id)

def inCase (lowercase : Bool) (stem : List Char) : List Char :=
  if lowercase then Text.lower stem else stem

variable {r : Char} {fill : List Char → List Char} {s t : List Char}

theorem repeats_cons_self (r : Char) (rest : List Char) :
    repeats [r] (r :: rest) = repeats [r] rest + 1 := by
  rw [repeats]
  simp [Nat.add_comm]

theorem repeats_cons_of_ne {c : Char} (other : c ≠ r) (rest : List Char) :
    repeats [r] (c :: rest) = 0 := by
  rw [repeats]
  simp [Ne.symm other]

theorem drop_repeats (r : Char) (s : List Char) : s.drop (repeats [r] s) = s.dropWhile (· == r) := by
  induction s with
  | nil => simp
  | cons c rest ih =>
    by_cases same : c = r
    · subst same
      rw [repeats_cons_self, List.drop_succ_cons, ih, List.dropWhile_cons_of_pos (by simp)]
    · rw [repeats_cons_of_ne same, List.drop_zero, List.dropWhile_cons_of_neg (by simpa using same)]

theorem collapse_cons_of_ne {c : Char} (other : c ≠ r) (rest : List Char) :
    collapse [r] fill (c :: rest) = c :: collapse [r] fill rest := by
  rw [collapse, repeats_cons_of_ne other]
  rfl

theorem collapse_append (absent : r ∉ t) (s : List Char) :
    collapse [r] fill (t ++ s) = t ++ collapse [r] fill s := by
  induction t with
  | nil => rfl
  | cons c rest ih =>
    simp only [List.mem_cons, not_or] at absent
    rw [List.cons_append, collapse_cons_of_ne (Ne.symm absent.1), ih absent.2, List.cons_append]

theorem beq_false_of_not_mem (absent : r ∉ s) : ∀ c ∈ s, (c == r) = false := by
  intro c there
  rw [beq_eq_false_iff_ne]
  rintro rfl
  exact absent there

theorem rdropWhile_of_not_mem (absent : r ∉ s) : s.rdropWhile (· == r) = s := by
  rw [List.rdropWhile_eq_self_iff]
  intro filled
  simpa using beq_false_of_not_mem absent _ (List.getLast_mem filled)

theorem head?_dropWhile_ne (r : Char) (s : List Char) : (s.dropWhile (· == r)).head? ≠ some r := by
  intro start
  simpa [start] using List.head?_dropWhile_not (· == r) s

section Constant

variable (constant : ∀ run, fill run = [r])
include constant

/-- A run of the replacement becomes one of it. -/
theorem collapse_cons_self (rest : List Char) :
    collapse [r] fill (r :: rest) = r :: collapse [r] fill (rest.dropWhile (· == r)) := by
  rw [collapse, repeats_cons_self, ← drop_repeats]
  split
  · simp [constant]
  · next single =>
    have none : repeats [r] rest = 0 := by omega
    rw [none, List.drop_zero]

theorem dropWhile_collapse (s : List Char) :
    (collapse [r] fill s).dropWhile (· == r) = collapse [r] fill (s.dropWhile (· == r)) := by
  have stays : ∀ s, s.head? ≠ some r →
      (collapse [r] fill s).dropWhile (· == r) = collapse [r] fill s := by
    intro s start
    cases s with
    | nil => simp [collapse]
    | cons c rest =>
      have other : c ≠ r := by simpa using start
      rw [collapse_cons_of_ne other, List.dropWhile_cons_of_neg (by simpa using other)]
  cases s with
  | nil => simp [collapse]
  | cons c rest =>
    by_cases same : c = r
    · subst same
      rw [collapse_cons_self constant, List.dropWhile_cons_of_pos (by simp),
        List.dropWhile_cons_of_pos (by simp)]
      exact stays _ (head?_dropWhile_ne c rest)
    · rw [stays _ (by simpa using same), List.dropWhile_cons_of_neg (by simpa using same)]

/-- A collapsed text that does not begin with the replacement is, up to its last replacement, its
pieces joined by single ones. -/
theorem rdropWhile_collapse (start : s.head? ≠ some r) :
    (collapse [r] fill s).rdropWhile (· == r) = [r].intercalate (Text.piecesBetween (· == r) s) := by
  -- By induction on the length: the first piece and the replacements after it are taken off.
  induction size : s.length using Nat.strongRecOn generalizing s with
  | ind n ih =>
    by_cases there : r ∈ s
    · obtain ⟨front, rest, rfl, absent⟩ := List.eq_append_cons_of_mem there
      have nonempty : front ≠ [] := by
        rintro rfl
        exact start rfl
      have shorter : (rest.dropWhile (· == r)).length < n := by
        have := List.length_dropWhile_le (· == r) rest
        rw [← size, List.length_append, List.length_cons]
        omega
      have remaining := ih _ shorter (head?_dropWhile_ne r rest) rfl
      rw [Text.piecesBetween_dropWhile] at remaining
      rw [collapse_append absent, collapse_cons_self constant,
        Text.rdropWhile_append_cons (by simp), remaining, rdropWhile_of_not_mem absent,
        Text.piecesBetween_append_cons (by simp),
        Text.piecesBetween_eq_singleton nonempty (beq_false_of_not_mem absent),
        List.singleton_append]
      -- With no piece left the replacement is the last and goes, with one it stands between two.
      cases pieces : Text.piecesBetween (· == r) rest with
      | nil => simp
      | cons piece others =>
        have filled : piece ≠ [] := by
          have listed : piece ∈ Text.piecesBetween (· == r) rest := by simp [pieces]
          exact (Text.mem_piecesBetween_iff.mp listed).nonempty
        have some : [r].intercalate (piece :: others) ≠ [] := by
          cases others <;> simp [filled]
        rw [if_neg some, List.intercalate_cons_cons, List.append_assoc, List.singleton_append]
    · have same : collapse [r] fill s = s := by
        have whole : collapse [r] fill (s ++ []) = s ++ collapse [r] fill [] :=
          collapse_append there []
        simpa [collapse] using whole
      rw [same, rdropWhile_of_not_mem there]
      by_cases empty : s = []
      · simp [empty, Text.piecesBetween, Text.splitAtEach]
      · simp [Text.piecesBetween_eq_singleton empty (beq_false_of_not_mem there)]

theorem stripEnds_collapse (s : List Char) :
    Text.stripEnds [r].contains (collapse [r] fill s) =
      [r].intercalate (Text.piecesBetween (· == r) s) := by
  have ends : [r].contains = (· == r) := by
    funext c
    simp only [List.contains_cons, List.contains_nil, Bool.or_false]
  rw [ends, ← Text.piecesBetween_dropWhile,
    ← rdropWhile_collapse constant (head?_dropWhile_ne r s), ← dropWhile_collapse constant]
  rfl

end Constant

theorem piecesBetween_replaced (r : Char) (s : List Char) :
    Text.piecesBetween (· == r) (s.map fun c => if isUnsafe c then r else c) =
      Text.piecesBetween (separates r) s := by
  have same : Text.splitAtEach (· == r) (s.map fun c => if isUnsafe c then r else c) =
      Text.splitAtEach (separates r) s := by
    induction s with
    | nil => rfl
    | cons c rest ih =>
      rw [List.map_cons, Text.splitAtEach, Text.splitAtEach, ih]
      by_cases risky : isUnsafe c = true
      · simp [separates, risky]
      · simp [separates, risky]
  rw [Text.piecesBetween, same, Text.piecesBetween]

/-- Cleaning an id joins its tokens. -/
theorem clean_singleton (r : Char) (id : String) :
    clean [r] [.literal [r]] id.toList = joined r id := by
  have constant : ∀ run, Template.fill [.literal [r]] run = [r] := fun _ => rfl
  have replaced : (id.toList.flatMap fun c =>
      if isUnsafe c then Template.fill [.literal [r]] [c] else [c]) =
        id.toList.map fun c => if isUnsafe c then r else c := by
    rw [List.map_eq_flatMap]
    congr 1
    funext c
    split <;> simp [constant]
  rw [clean, replaced]
  simp only [List.isEmpty_cons, Bool.false_eq_true, if_false]
  rw [stripEnds_collapse constant, piecesBetween_replaced, joined, tokens]

/-- A stem is made in three steps: the id is cleaned, put in the case that is asked for, and cut. -/
theorem render_eq (options : Options) (plain : '\\' ∉ options.replacement.toList) {id : String}
    (nonempty : id ≠ "") :
    render options id = .ok (String.ofList (shorten options.maxLength id (inCase options.lowercase
      (clean options.replacement.toList (options.replacement.toList.map fun c => .literal [c])
        id.toList)))) := by
  have filled : id.isEmpty = false := by simpa using nonempty
  simp only [render, filled, read_plain plain]
  rfl

/-- The stem of an id under a replacement of one character. -/
theorem render_singleton (plain : r ≠ '\\') (maxLength : Int) (lowercase : Bool) {id : String}
    (nonempty : id ≠ "") :
    render ⟨String.singleton r, maxLength, lowercase⟩ id =
      .ok (String.ofList (shorten maxLength id (inCase lowercase (joined r id)))) := by
  have literal : '\\' ∉ (String.singleton r).toList := by simpa using Ne.symm plain
  rw [render_eq ⟨String.singleton r, maxLength, lowercase⟩ literal nonempty]
  simp only [String.toList_singleton, List.map_cons, List.map_nil, clean_singleton]

theorem shorten_of_le {maxLength : Int} (fits : s.length ≤ maxLength) (id : String) :
    shorten maxLength id s = s :=
  if_neg (Int.not_lt.mpr fits)

theorem shorten_of_lt {maxLength : Int} (room : 10 ≤ maxLength) (long : maxLength < s.length)
    (id : String) :
    shorten maxLength id s = s.take (maxLength - 9).toNat ++ '-' :: digest id := by
  have kept : maxLength - digestLength - 1 = maxLength - 9 := by
    simp only [digestLength]
    omega
  rw [shorten, if_pos long, kept, Text.takeUpTo_of_nonneg (by omega)]

/-- Tokens are the longest stretches of an id that are free of unsafe characters and replacements.
The stem is the tokens, joined by the replacement and in the case that is asked for; where that is too
long, its first characters and the first digits of the id's digest stand for it. -/
theorem render_joins_tokens {r : Char} (plain : r ≠ '\\') {maxLength : Int}
    (room : 10 ≤ maxLength) (lowercase : Bool) {id : String} (nonempty : id ≠ "") :
    (∀ t, t ∈ tokens r id ↔ Text.IsStretch (separates r) id.toList t) ∧
    render ⟨String.singleton r, maxLength, lowercase⟩ id =
      .ok (String.ofList
        (if (inCase lowercase (joined r id)).length ≤ maxLength then inCase lowercase (joined r id)
        else (inCase lowercase (joined r id)).take (maxLength - 9).toNat ++
          '-' :: (Digest.sha1Hex id).take 8)) := by
  refine ⟨fun t => Text.mem_piecesBetween_iff, ?_⟩
  rw [render_singleton plain maxLength lowercase nonempty]
  split
  · next fits => rw [shorten_of_le fits]
  · next long => rw [shorten_of_lt room (Int.not_le.mp long), digest, digestLength]

theorem render_joins_tokens_sample :
    render ⟨String.singleton '_', 12, true⟩ "M:A.B_(C, _D)" = .ok "m_a.b_c_d" ∧
      render ⟨String.singleton '_', 10, true⟩ "T:Acme.Widget`1" =
        .ok (String.ofList ('t' :: '-' :: (Digest.sha1Hex "T:Acme.Widget`1").take 8)) := by
  constructor
  · have whole : inCase true (joined '_' "M:A.B_(C, _D)") = "m_a.b_c_d".toList := by decide +kernel
    rw [(render_joins_tokens (by decide) (by decide) true (by decide)).2, whole]
    rfl
  · have whole : inCase true (joined '_' "T:Acme.Widget`1") = "t_acme.widget_1".toList := by
      decide +kernel
    rw [(render_joins_tokens (by decide) (by decide) true (by decide)).2, whole]
    rfl

theorem free_of_mem_tokens {id : String} (there : t ∈ tokens r id) :
    t ≠ [] ∧ r ∉ t ∧ ∀ c ∈ t, isUnsafe c = false := by
  obtain ⟨nonempty, free, -⟩ := Text.mem_piecesBetween_iff.mp there
  refine ⟨nonempty, ?_, ?_⟩
  · intro inside
    simpa [separates] using free r inside
  · intro c inside
    have both := free c inside
    simp only [separates, Bool.or_eq_false_iff] at both
    exact both.1

/-- Tokens can be told from what they are joined to. -/
theorem joined_inj {a b : String} : joined r a = joined r b ↔ tokens r a = tokens r b := by
  have back : ∀ id, Text.piecesBetween (· == r) (joined r id) = tokens r id := by
    intro id
    apply Text.piecesBetween_intercalate
    · intro empty
      exact (free_of_mem_tokens empty).1 rfl
    · intro t there
      exact (free_of_mem_tokens there).2.1
  constructor
  · intro same
    rw [← back a, same, back b]
  · intro same
    rw [joined, same, joined]

/-- Which ids have a stem in common: of those whose stems are whole the ones with the same tokens,
and of those whose stems are cut the ones that agree in what is kept and in the digest. -/
theorem render_collides_iff {r : Char} (plain : r ≠ '\\') {maxLength : Int}
    (room : 10 ≤ maxLength) {a b : String} (filledA : a ≠ "") (filledB : b ≠ "") :
    ∃ x y, render ⟨String.singleton r, maxLength, false⟩ a = .ok x ∧
      render ⟨String.singleton r, maxLength, false⟩ b = .ok y ∧
      ((joined r a).length ≤ maxLength → (joined r b).length ≤ maxLength →
        (x = y ↔ tokens r a = tokens r b)) ∧
      (maxLength < (joined r a).length → maxLength < (joined r b).length →
        (x = y ↔
          (joined r a).take (maxLength - 9).toNat = (joined r b).take (maxLength - 9).toNat ∧
            (Digest.sha1Hex a).take 8 = (Digest.sha1Hex b).take 8)) := by
  refine ⟨_, _, render_singleton plain maxLength false filledA,
    render_singleton plain maxLength false filledB, ?_, ?_⟩
  · intro fitsA fitsB
    rw [inCase, inCase, if_neg Bool.false_ne_true, if_neg Bool.false_ne_true, shorten_of_le fitsA,
      shorten_of_le fitsB, String.ofList_inj, joined_inj]
  · intro longA longB
    have same : ((joined r a).take (maxLength - 9).toNat).length =
        ((joined r b).take (maxLength - 9).toNat).length := by
      rw [List.length_take_of_le (by omega), List.length_take_of_le (by omega)]
    rw [inCase, inCase, if_neg Bool.false_ne_true, if_neg Bool.false_ne_true,
      shorten_of_lt room longA, shorten_of_lt room longB, String.ofList_inj]
    constructor
    · intro agree
      obtain ⟨kept, marked⟩ := List.append_inj agree same
      exact ⟨kept, (List.cons.inj marked).2⟩
    · rintro ⟨kept, digits⟩
      rw [kept, digest, digest, digestLength, digits]

theorem render_collides_iff_sample :
    (∃ x y, render ⟨String.singleton '_', 10, false⟩ "T:A(B)" = .ok x ∧
      render ⟨String.singleton '_', 10, false⟩ "T:_A[B" = .ok y ∧ x = y) ∧
    ∃ x y, render ⟨String.singleton '_', 10, false⟩ "M:Acme.Spin(A)" = .ok x ∧
      render ⟨String.singleton '_', 10, false⟩ "M:Acme.Spin(B)" = .ok y ∧
      (x = y ↔ (Digest.sha1Hex "M:Acme.Spin(A)").take 8 = (Digest.sha1Hex "M:Acme.Spin(B)").take 8) := by
  constructor
  · obtain ⟨x, y, first, second, whole, -⟩ := render_collides_iff (r := '_') (by decide)
      (show (10 : Int) ≤ 10 by decide) (show "T:A(B)" ≠ "" by decide)
      (show "T:_A[B" ≠ "" by decide)
    refine ⟨x, y, first, second, (whole ?_ ?_).mpr ?_⟩ <;> decide +kernel
  · obtain ⟨x, y, first, second, -, cut⟩ := render_collides_iff (r := '_') (by decide)
      (show (10 : Int) ≤ 10 by decide) (show "M:Acme.Spin(A)" ≠ "" by decide)
      (show "M:Acme.Spin(B)" ≠ "" by decide)
    have kept : (joined '_' "M:Acme.Spin(A)").take (10 - 9 : Int).toNat =
        (joined '_' "M:Acme.Spin(B)").take (10 - 9 : Int).toNat := by decide +kernel
    refine ⟨x, y, first, second, (cut ?_ ?_).trans (and_iff_right kept)⟩ <;> decide +kernel

end Stem

end Apidoc
